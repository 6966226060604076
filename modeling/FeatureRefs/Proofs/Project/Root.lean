import Mathlib.Logic.Relation
import FeatureRefs.Project.Root
import FeatureRefs.Proofs.Files.Parent

/-!
# The nearest root of a project

The search for the root of a project goes up from a path by one component at a time. It ends at the first
directory with a marker, and where there is none it ends as well, with the path it began at. So what is found is the
marked one with the most components among the path and the paths above it, down to the root directory or the empty
path. Whether a path is marked is asked of the path as it is written; no two dots and no links are resolved.
-/

namespace FeatureRefs

/-! ## Paths above a path -/

/-- Whether a path is left of another one without some of its last components. -/
def Path.IsAbove (start : Path) : Path → Prop :=
  Relation.ReflTransGen (fun p above => p.parent? = some above) start

namespace Path

variable {start p q : Path}

theorem length_components_of_parent? (h : p.parent? = some q) :
    q.components.length + 1 = p.components.length := by
  have hne : p.components ≠ [] := by
    intro hnil
    have hroot : rootComponents p.isAbsolute = [] := by
      rw [components_eq, List.append_eq_nil_iff] at hnil
      exact hnil.1
    rw [parent?_eq_none_iff.2 (hnil.trans hroot.symm)] at h
    contradiction
  have hpos := List.length_pos_iff.2 hne
  rw [(components_of_parent? h).2, List.length_dropLast]
  omega

/-- A path above another one has some of its first components, and is absolute where the other is. -/
theorem IsAbove.components_isPrefix (h : start.IsAbove q) :
    q.isAbsolute = start.isAbsolute ∧ q.components <+: start.components := by
  induction h with
  | refl => exact ⟨rfl, List.prefix_rfl⟩
  | tail _ hparent ih =>
      obtain ⟨habsolute, hcomponents⟩ := components_of_parent? hparent
      rw [habsolute, hcomponents]
      exact ⟨ih.1, (List.dropLast_prefix _).trans ih.2⟩

/-- The paths above a path have each of its beginnings as their components, as long as the root directory stays. -/
theorem exists_isAbove_iff {components : List Component} :
    (∃ q, start.IsAbove q ∧ q.components = components) ↔
      components <+: start.components ∧ rootComponents start.isAbsolute <+: components := by
  constructor
  · rintro ⟨q, habove, rfl⟩
    obtain ⟨habsolute, hbegins⟩ := habove.components_isPrefix
    refine ⟨hbegins, ?_⟩
    rw [components_eq, habsolute]
    exact List.prefix_append _ _
  · rintro ⟨hbegins, hroot⟩
    -- The induction is on the number of components, of which each step takes one.
    induction hlength : start.components.length generalizing start with
    | zero =>
        have hnil := List.eq_nil_of_length_eq_zero hlength
        rw [hnil, List.prefix_nil] at hbegins
        exact ⟨start, .refl, hnil.trans hbegins.symm⟩
    | succ n ih =>
        by_cases hself : start.components = components
        · exact ⟨start, .refl, hself⟩
        · have hparent : start.parent? ≠ none := by
            intro hnone
            rw [parent?_eq_none_iff.1 hnone] at hbegins hself
            exact hself (hroot.eq_of_length_le hbegins.length_le)
          obtain ⟨above, habove⟩ := Option.ne_none_iff_exists'.1 hparent
          obtain ⟨habsolute, hdropped⟩ := components_of_parent? habove
          have hshorter := length_components_of_parent? habove
          have hshort : components.length < start.components.length :=
            hbegins.length_le.lt_of_ne fun heq => hself (hbegins.eq_of_length heq).symm
          have hbegins' : components <+: above.components := by
            rw [hdropped]
            refine List.prefix_of_prefix_length_le hbegins (List.dropLast_prefix _) ?_
            rw [List.length_dropLast]
            omega
          obtain ⟨q, hq, hcomponents⟩ := ih hbegins' (by rwa [habsolute]) (by omega)
          exact ⟨q, .head habove hq, hcomponents⟩

end Path

namespace Project

variable {files : Files} {start current root q : Path}

/-! ## Candidates -/

theorem ancestors_of_parent? {above : Path} (n : Nat) (h : current.parent? = some above) :
    ancestors (n + 1) current = current :: ancestors n above := by
  rw [ancestors, h]

theorem ancestors_of_parent?_eq_none (n : Nat) (h : current.parent? = none) :
    ancestors n current = [current] := by
  cases n with
  | zero => rfl
  | succ n => rw [ancestors, h]

theorem isAbove_of_mem_ancestors {n : Nat} (h : q ∈ ancestors n current) : current.IsAbove q := by
  induction n generalizing current with
  | zero =>
      rw [List.mem_singleton.1 h]
      exact .refl
  | succ n ih =>
      cases hparent : current.parent? with
      | none =>
          rw [ancestors_of_parent?_eq_none _ hparent] at h
          rw [List.mem_singleton.1 h]
          exact .refl
      | some above =>
          rw [ancestors_of_parent? n hparent] at h
          rcases List.mem_cons.1 h with rfl | hrest
          · exact .refl
          · exact .head hparent (ih hrest)

/-- With as many steps as there are components the last path is one that has none to lose. -/
theorem mem_ancestors_of_isAbove {n : Nat} (hn : current.components.length ≤ n)
    (h : current.IsAbove q) : q ∈ ancestors n current := by
  induction h using Relation.ReflTransGen.head_induction_on generalizing n with
  | refl =>
      cases n with
      | zero => exact List.mem_singleton_self _
      | succ n => exact List.mem_cons_self
  | head hparent _ ih =>
      have hlength := Path.length_components_of_parent? hparent
      obtain ⟨m, rfl⟩ : ∃ m, n = m + 1 := ⟨n - 1, by omega⟩
      rw [ancestors_of_parent? m hparent]
      exact List.mem_cons_of_mem _ (ih (by omega))

theorem mem_candidates_iff : q ∈ candidates start ↔ start.IsAbove q :=
  ⟨isAbove_of_mem_ancestors, mem_ancestors_of_isAbove (Nat.le_refl _)⟩

/-- Each candidate has more components than those behind it. -/
theorem pairwise_ancestors (n : Nat) (current : Path) :
    (ancestors n current).Pairwise fun p q => q.components.length < p.components.length := by
  induction n generalizing current with
  | zero => exact List.pairwise_singleton _ _
  | succ n ih =>
      cases hparent : current.parent? with
      | none =>
          rw [ancestors_of_parent?_eq_none _ hparent]
          exact List.pairwise_singleton _ _
      | some above =>
          rw [ancestors_of_parent? n hparent]
          refine List.pairwise_cons.2 ⟨fun q hq => ?_, ih above⟩
          have hlength := Path.length_components_of_parent? hparent
          have hle := (isAbove_of_mem_ancestors hq).components_isPrefix.2.length_le
          omega

/-! ## The search -/

/-- How a search that began at `start` goes on from a path that it has come to, and what it ends with. -/
inductive Finds (files : Files) (start : Path) : Path → Path → Prop where
  /-- It ends at a root of a project. -/
  | found {current : Path} (hroot : isRoot files current = true) : Finds files start current current
  /-- Elsewhere it goes on without the last component. -/
  | up {current above root : Path} (hroot : isRoot files current = false)
      (hparent : current.parent? = some above) (h : Finds files start above root) :
      Finds files start current root
  /-- Where there is none to lose it ends with the path that it began at. -/
  | missed {current : Path} (hroot : isRoot files current = false)
      (hparent : current.parent? = none) : Finds files start current start

/-- A search ends, with the first root among the paths that it comes to. -/
theorem finds_find? {n : Nat} (hn : current.components.length ≤ n) :
    Finds files start current (((ancestors n current).find? (isRoot files)).getD start) := by
  induction n generalizing current with
  | zero =>
      have hnone : current.parent? = none := by
        rw [Option.eq_none_iff_forall_ne_some]
        intro above hparent
        have hlength := Path.length_components_of_parent? hparent
        omega
      cases hroot : isRoot files current with
      | true =>
          rw [ancestors, List.find?_cons_of_pos hroot]
          exact .found hroot
      | false =>
          rw [ancestors, List.find?_cons_of_neg (Bool.eq_false_iff.1 hroot)]
          exact .missed hroot hnone
  | succ n ih =>
      cases hroot : isRoot files current with
      | true =>
          rw [ancestors, List.find?_cons_of_pos hroot]
          exact .found hroot
      | false =>
          rw [ancestors, List.find?_cons_of_neg (Bool.eq_false_iff.1 hroot)]
          cases hparent : current.parent? with
          | none => exact .missed hroot hparent
          | some above =>
              have hlength := Path.length_components_of_parent? hparent
              exact .up hroot hparent (ih (by omega))

/-- A search ends with one path at most. -/
theorem Finds.unique {root' : Path} (h : Finds files start current root)
    (h' : Finds files start current root') : root = root' := by
  induction h with
  | found hroot =>
      cases h' with
      | found _ => rfl
      | up hnot _ _ => rw [hroot] at hnot; contradiction
      | missed hnot _ => rw [hroot] at hnot; contradiction
  | up hnot hparent _ ih =>
      cases h' with
      | found hroot => rw [hroot] at hnot; contradiction
      | up _ hparent' h' =>
          rw [hparent, Option.some_inj] at hparent'
          subst hparent'
          exact ih h'
      | missed _ hnone => rw [hparent] at hnone; contradiction
  | missed hnot hnone =>
      cases h' with
      | found hroot => rw [hroot] at hnot; contradiction
      | up _ hparent _ => rw [hnone] at hparent; contradiction
      | missed _ _ => rfl

theorem finds_iff : Finds files start start root ↔ findRoot files start = root := by
  have hfinds : Finds files start start (findRoot files start) := finds_find? (Nat.le_refl _)
  constructor
  · exact hfinds.unique
  · rintro rfl
    exact hfinds

/-- The root of a project that has the most components among the paths above a path, and the path itself where
there is none. -/
inductive IsNearestRoot (files : Files) (start root : Path) : Prop where
  | marked (above : start.IsAbove root) (isRoot : isRoot files root = true)
      (nearest : ∀ other, start.IsAbove other → Project.isRoot files other = true → other ≠ root →
        other.components.length < root.components.length)
  | unmarked (none_marked : ∀ other, start.IsAbove other → Project.isRoot files other = false)
      (eq_start : root = start)

theorem findRoot_eq_iff : findRoot files start = root ↔ IsNearestRoot files start root := by
  have hpairwise := pairwise_ancestors start.components.length start
  rw [findRoot]
  cases hfound : (candidates start).find? (isRoot files) with
  | none =>
      have hunmarked : ∀ other, start.IsAbove other → isRoot files other = false := by
        intro other habove
        exact Bool.eq_false_iff.2 (List.find?_eq_none.1 hfound other (mem_candidates_iff.2 habove))
      constructor
      · intro h
        exact .unmarked hunmarked h.symm
      · rintro (⟨habove, hroot, -⟩ | ⟨-, rfl⟩)
        · rw [hunmarked root habove] at hroot
          contradiction
        · rfl
  | some first =>
      obtain ⟨hfirst, before, behind, hsplit, hbefore⟩ := List.find?_eq_some_iff_append.1 hfound
      have habove : start.IsAbove first := mem_candidates_iff.1 (by rw [hsplit]; simp)
      -- Any other root stands behind the first one, where paths have fewer components.
      have hnearest : ∀ other, start.IsAbove other → isRoot files other = true → other ≠ first →
          other.components.length < first.components.length := by
        intro other hother hroot hne
        have hmem := mem_candidates_iff.2 hother
        rw [hsplit, List.mem_append, List.mem_cons] at hmem
        rcases hmem with hmem | rfl | hmem
        · have hnot := hbefore other hmem
          rw [hroot] at hnot
          contradiction
        · exact absurd rfl hne
        · rw [← candidates, hsplit] at hpairwise
          exact List.rel_of_pairwise_cons (List.pairwise_append.1 hpairwise).2.1 hmem
      constructor
      · rintro rfl
        exact .marked habove hfirst hnearest
      · rintro (⟨habove', hroot, hnearest'⟩ | ⟨hunmarked, -⟩)
        · rw [Option.getD_some]
          by_contra hne
          have hless := hnearest root habove' hroot fun heq => hne heq.symm
          have hmore := hnearest' first habove hfirst hne
          omega
        · rw [hunmarked first habove] at hfirst
          contradiction

/-- The search for a root ends, with the path that `findRoot` gives and with no other. This is the root of a project
that is nearest to the path where the search begins, among the paths with the components of that path without some of
the last ones, down to the root directory or the empty path; without any it is that path. -/
theorem findRoot_nearest (files : Files) (start root : Path) :
    (Finds files start start root ↔ findRoot files start = root) ∧
      (findRoot files start = root ↔ IsNearestRoot files start root) ∧
      ∀ components, (∃ q, start.IsAbove q ∧ q.components = components) ↔
        components <+: start.components ∧ Path.rootComponents start.isAbsolute <+: components :=
  ⟨finds_iff, findRoot_eq_iff, fun _ => Path.exists_isAbove_iff⟩

end Project

end FeatureRefs
