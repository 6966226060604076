import Mathlib.Data.List.Nodup
import Mathlib.Data.Prod.Lex
import Mathlib.Data.String.Basic
import Mathlib.Order.Lex
import FeatureRefs.Registry.Search

/-!
# The order in which features are enumerated

Candidates and search results are sorted by keys that end in the id, and the ids of a registry are
distinct. So the answers depend on the set of features alone and not on the order in which the registry
enumerates them. Without the id at the end of the keys this would NOT be so: two features may have
the same name, and then the same similarity to every query.
-/

namespace FeatureRefs

/-! ## Sorting by a key -/

section

variable {α κ : Type} [LinearOrder κ] {key : α → κ} {order : α → α → Bool}

theorem pairwise_mergeSort_key (horder : ∀ a b, order a b = true ↔ key a ≤ key b) (xs : List α) :
    (xs.mergeSort order).Pairwise fun a b => key a ≤ key b := by
  have hsorted : (xs.mergeSort order).Pairwise fun a b => order a b = true := by
    apply List.pairwise_mergeSort
    · intro a b c hab hbc
      rw [horder] at hab hbc ⊢
      exact le_trans hab hbc
    · intro a b
      rw [Bool.or_eq_true, horder, horder]
      exact le_total (key a) (key b)
  exact hsorted.imp fun {a b} hab => (horder a b).1 hab

/-- Sorted by a key that tells the entries apart, two enumerations of the same entries become one
list. -/
theorem mergeSort_eq_of_perm (horder : ∀ a b, order a b = true ↔ key a ≤ key b) {xs ys : List α}
    (h : xs.Perm ys) (hkey : ∀ a ∈ xs, ∀ b ∈ xs, key a = key b → a = b) :
    xs.mergeSort order = ys.mergeSort order := by
  have hxs := List.mergeSort_perm xs order
  have hys := (List.mergeSort_perm ys order).trans h.symm
  refine List.Perm.eq_of_pairwise ?_ (pairwise_mergeSort_key horder xs)
    (pairwise_mergeSort_key horder ys) (hxs.trans hys.symm)
  intro a b ha hb hab hba
  exact hkey a (hxs.mem_iff.1 ha) b (hys.mem_iff.1 hb) (le_antisymm hab hba)

end

namespace Registry

/-! ## The keys of the two orders -/

/-- What candidates are sorted by: the name in lower case, then the id. -/
def nameKey (c : Candidate) : String ×ₗ String :=
  toLex (Unicode.lowercase c.name, c.id)

/-- What hits are sorted by: whether the query is the id and how similar the name is, both falling,
then the name, then the id. -/
def hitKey (hit : Hit) : Boolᵒᵈ ×ₗ ℕᵒᵈ ×ₗ String ×ₗ String :=
  toLex (OrderDual.toDual hit.exact, toLex (OrderDual.toDual hit.similarity,
    toLex (hit.candidate.name, hit.candidate.id)))

theorem nameOrder_iff_key (a b : Candidate) : nameOrder a b = true ↔ nameKey a ≤ nameKey b := by
  simp only [nameOrder, nameKey, Prod.Lex.toLex_le_toLex, Bool.or_eq_true, Bool.and_eq_true,
    decide_eq_true_eq, beq_iff_eq]

theorem hitOrder_iff_key (a b : Hit) : hitOrder a b = true ↔ hitKey a ≤ hitKey b := by
  simp only [hitOrder, hitKey, Prod.Lex.toLex_le_toLex, Bool.or_eq_true, Bool.and_eq_true,
    decide_eq_true_eq, beq_iff_eq, OrderDual.toDual_lt_toDual, OrderDual.toDual_inj,
    Bool.lt_iff, Bool.not_eq_true', and_comm]

theorem id_eq_of_nameKey_eq {a b : Candidate} (h : nameKey a = nameKey b) : a.id = b.id := by
  have hkeys : (Unicode.lowercase a.name, a.id) = (Unicode.lowercase b.name, b.id) := toLex_inj.1 h
  exact (Prod.mk.inj hkeys).2

theorem id_eq_of_hitKey_eq {a b : Hit} (h : hitKey a = hitKey b) :
    a.candidate.id = b.candidate.id := by
  obtain ⟨-, hrest⟩ := Prod.mk.inj (toLex_inj.1 h)
  obtain ⟨-, hnames⟩ := Prod.mk.inj (toLex_inj.1 hrest)
  exact (Prod.mk.inj (toLex_inj.1 hnames)).2

/-! ## Sorting features -/

section

variable {α κ : Type} [LinearOrder κ] {key : α → κ} {order : α → α → Bool} {entry : Feature → α}

/-- Where the key of an entry tells the id of its feature, it does not matter in which order features
with distinct ids are enumerated. -/
theorem mergeSort_map_eq_of_perm (horder : ∀ a b, order a b = true ↔ key a ≤ key b)
    (hkey : ∀ f g, key (entry f) = key (entry g) → f.id = g.id) {features features' : List Feature}
    (h : features.Perm features') (hids : (features.map Feature.id).Nodup) :
    (features.map entry).mergeSort order = (features'.map entry).mergeSort order := by
  refine mergeSort_eq_of_perm horder (h.map entry) ?_
  intro a ha b hb hab
  obtain ⟨f, hf, rfl⟩ := List.mem_map.1 ha
  obtain ⟨g, hg, rfl⟩ := List.mem_map.1 hb
  rw [List.inj_on_of_nodup_map hids hf hg (hkey f g hab)]

end

/-- The hit that a feature is for a query. -/
def hitOf (similarity : String → String → Nat) (query : String) (feature : Feature) : Hit where
  exact := feature.id == query
  similarity := similarity query feature.name
  candidate := Candidate.ofFeature feature

theorem hitsFor_eq (similarity : String → String → Nat) (r : Registry) (query : String) :
    hitsFor similarity r query =
      (((r.features.filter (isHit query)).map (hitOf similarity query)).mergeSort hitOrder).map
        Hit.candidate := rfl

theorem candidates_eq_of_perm {r r' : Registry} (h : r.features.Perm r'.features) :
    r.candidates = r'.candidates := by
  refine mergeSort_map_eq_of_perm nameOrder_iff_key ?_ h r.nodup_ids
  intro f g hkey
  exact id_eq_of_nameKey_eq hkey

theorem hitsFor_eq_of_perm {r r' : Registry} (h : r.features.Perm r'.features)
    (similarity : String → String → Nat) (query : String) :
    hitsFor similarity r query = hitsFor similarity r' query := by
  have hids : ((r.features.filter (isHit query)).map Feature.id).Nodup :=
    r.nodup_ids.sublist (List.filter_sublist.map Feature.id)
  rw [hitsFor_eq, hitsFor_eq]
  congr 1
  refine mergeSort_map_eq_of_perm hitOrder_iff_key ?_ (h.filter _) hids
  intro f g hkey
  exact id_eq_of_hitKey_eq hkey

/-- The candidates, and the answers to every query under every measure of similarity, are the same
whatever the order is in which the features of a registry are enumerated. -/
theorem answers_eq_of_perm {r r' : Registry} (h : r.features.Perm r'.features) :
    r.candidates = r'.candidates ∧
      (∀ similarity query, searchBy similarity r query = searchBy similarity r' query) ∧
      ∀ query, r.search query = r'.search query := by
  have hsearch : ∀ similarity query, searchBy similarity r query = searchBy similarity r' query := by
    intro similarity query
    simp only [searchBy]
    split
    · exact candidates_eq_of_perm h
    · exact hitsFor_eq_of_perm h similarity _
  exact ⟨candidates_eq_of_perm h, hsearch, hsearch nameSimilarity⟩

/-- Two features with one name are equally similar to every query. In either order of enumeration the one
whose id comes first is offered first. -/
theorem answers_eq_of_perm_namesakes :
    let grid : Feature := ⟨"grid", "Grid", "", "", {}⟩
    let cssGrid : Feature := ⟨"css-grid", "Grid", "", "", {}⟩
    let r : Registry := { features := [grid, cssGrid], nodup_ids := by decide }
    let r' : Registry := { features := [cssGrid, grid], nodup_ids := by decide }
    r.features.Perm r'.features ∧ r.search " GR" = r'.search " GR" ∧
      (searchBy (fun _ _ => 0) r " GR").map Candidate.id = ["css-grid", "grid"] := by
  intro grid cssGrid r r'
  have hperm : r.features.Perm r'.features := .swap cssGrid grid []
  have hranked : (searchBy (fun _ _ => 0) r' " GR").map Candidate.id = ["css-grid", "grid"] := by
    have hlowered : Unicode.lowercase (Unicode.trim " GR") = "gr" := by
      decide +kernel
    have hsorted : ((r'.features.filter (isHit "gr")).map (hitOf (fun _ _ => 0) "gr")).Pairwise
        fun a b => hitOrder a b = true := by
      decide +kernel
    simp only [searchBy, hlowered]
    rw [if_neg (by decide), hitsFor_eq, List.mergeSort_of_pairwise hsorted]
    decide +kernel
  obtain ⟨-, hsearchBy, hsearch⟩ := answers_eq_of_perm hperm
  exact ⟨hperm, hsearch " GR", by rw [hsearchBy, hranked]⟩

end Registry

end FeatureRefs
