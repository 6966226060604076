import FeatureRefs.Registry.Load
import FeatureRefs.Proofs.Registry.Enumeration

/-!
# What a search answers

The answer to a query is made of the candidates that mention the query in lower case, each of them once,
and the feature whose id is the query comes first. That an exact hit has a place of its own in the
ranking makes no difference to a ranking by one score, in which an exact hit has a score above every
similarity.

A blank query is NOT ranked. It is answered with all candidates in the order of their names, so a feature
with the empty id need not come first.
-/

namespace FeatureRefs

/-- A candidate that has a text in its id, or in its name or description in lower case. -/
def Candidate.Mentions (c : Candidate) (text : String) : Prop :=
  text.toList <:+: c.id.toList ∨ text.toList <:+: (Unicode.lowercase c.name).toList ∨
    text.toList <:+: (Unicode.lowercase c.description).toList

instance (c : Candidate) (text : String) : Decidable (c.Mentions text) :=
  inferInstanceAs (Decidable (_ ∨ _ ∨ _))

namespace Registry

variable {similarity : String → String → Nat} {r : Registry} {query : String} {feature : Feature}

theorem isHit_iff_mentions :
    isHit query feature = true ↔ (Candidate.ofFeature feature).Mentions query := by
  simp only [isHit, Bool.or_eq_true, containsText_iff, or_assoc]
  rfl

theorem get?_eq_some_iff :
    r.get? query = some feature ↔ feature ∈ r.features ∧ feature.id = query := by
  constructor
  · intro h
    exact ⟨List.mem_of_find?_eq_some h, by simpa using List.find?_some h⟩
  · rintro ⟨hfeature, rfl⟩
    cases hfound : r.get? feature.id with
    | none =>
        have hnone := List.find?_eq_none.1 hfound feature hfeature
        simp at hnone
    | some other =>
        have hid : other.id = feature.id := by simpa using List.find?_some hfound
        rw [List.inj_on_of_nodup_map r.nodup_ids (List.mem_of_find?_eq_some hfound) hfeature hid]

/-! ## Which candidates are found -/

theorem candidates_perm (r : Registry) : r.candidates.Perm (r.features.map Candidate.ofFeature) :=
  List.mergeSort_perm _ _

/-- The candidates that mention a query are the features that it hits. -/
theorem filter_mentions_perm (r : Registry) (query : String) :
    (r.candidates.filter fun c => c.Mentions query).Perm
      ((r.features.filter (isHit query)).map Candidate.ofFeature) := by
  have hsame : isHit query =
      (fun c : Candidate => decide (c.Mentions query)) ∘ Candidate.ofFeature := by
    funext feature
    rw [Bool.eq_iff_iff, isHit_iff_mentions]
    simp
  rw [hsame, ← List.filter_map]
  exact r.candidates_perm.filter _

theorem mentions_empty (c : Candidate) : c.Mentions "" :=
  .inl List.nil_infix

theorem hitsFor_perm (similarity : String → String → Nat) (r : Registry) (query : String) :
    (hitsFor similarity r query).Perm (r.candidates.filter fun c => c.Mentions query) := by
  have hsorted := (List.mergeSort_perm ((r.features.filter (isHit query)).map (hitOf similarity query))
    hitOrder).map Hit.candidate
  rw [List.map_map] at hsorted
  rw [hitsFor_eq]
  exact hsorted.trans (filter_mentions_perm r query).symm

theorem searchBy_perm (similarity : String → String → Nat) (r : Registry) (query : String) :
    (searchBy similarity r query).Perm
      (r.candidates.filter fun c => c.Mentions (Unicode.lowercase (Unicode.trim query))) := by
  simp only [searchBy]
  split
  case isTrue hempty =>
      have hall : r.candidates.filter
          (fun c => c.Mentions (Unicode.lowercase (Unicode.trim query))) = r.candidates := by
        rw [String.isEmpty_iff.1 hempty]
        exact List.filter_eq_self.2 fun c _ => decide_eq_true (mentions_empty c)
      rw [hall]
  case isFalse => exact hitsFor_perm similarity r _

/-- No two candidates of a registry have the same id. -/
theorem nodup_map_id_candidates (r : Registry) : (r.candidates.map Candidate.id).Nodup := by
  have hids := r.candidates_perm.map Candidate.id
  rw [List.map_map] at hids
  exact hids.nodup_iff.2 r.nodup_ids

/-! ## The first hit -/

theorem pairwise_hits (hits : List Hit) :
    (hits.mergeSort hitOrder).Pairwise fun a b => hitOrder a b = true :=
  (pairwise_mergeSort_key hitOrder_iff_key hits).imp fun {a b} => (hitOrder_iff_key a b).2

/-- Only an exact hit comes before an exact hit. -/
theorem exact_of_hitOrder {a b : Hit} (h : hitOrder a b = true) (hb : b.exact = true) :
    a.exact = true := by
  by_contra ha
  simp [hitOrder, hb, ha] at h

/-- The feature whose id is the query is the first hit. -/
theorem head?_hitsFor (hfeature : feature ∈ r.features) (hid : feature.id = query) :
    (hitsFor similarity r query).head? = some (Candidate.ofFeature feature) := by
  have hhit : isHit query feature = true := by
    rw [isHit_iff_mentions, ← hid]
    exact .inl List.infix_rfl
  have hmem : hitOf similarity query feature ∈
      ((r.features.filter (isHit query)).map (hitOf similarity query)).mergeSort hitOrder :=
    List.mem_mergeSort.2 (List.mem_map_of_mem (List.mem_filter.2 ⟨hfeature, hhit⟩))
  have hsorted := pairwise_hits ((r.features.filter (isHit query)).map (hitOf similarity query))
  rw [hitsFor_eq]
  cases hranked : ((r.features.filter (isHit query)).map (hitOf similarity query)).mergeSort
      hitOrder with
  | nil => simp [hranked] at hmem
  | cons best others =>
      rw [hranked] at hmem hsorted
      have hexact : (hitOf similarity query feature).exact = true := beq_iff_eq.2 hid
      have hbest : best.exact = true := by
        rcases List.mem_cons.1 hmem with hself | hlater
        · rwa [← hself]
        · exact exact_of_hitOrder (List.rel_of_pairwise_cons hsorted hlater) hexact
      -- An exact hit is the feature itself, for no other has its id.
      have hfound : best ∈ ((r.features.filter (isHit query)).map
          (hitOf similarity query)).mergeSort hitOrder := by
        rw [hranked]
        exact List.mem_cons_self
      obtain ⟨other, hother, rfl⟩ := List.mem_map.1 (List.mem_mergeSort.1 hfound)
      have hsame : other = feature :=
        List.inj_on_of_nodup_map r.nodup_ids (List.mem_filter.1 hother).1 hfeature
          ((beq_iff_eq.1 hbest).trans hid.symm)
      rw [hsame]
      rfl

/-! ## Ranking by one score -/

/-- A hit with a single score. -/
structure ScoredHit where
  score : Nat
  candidate : Candidate

/-- The order by falling score, then by name and id. -/
def scoreOrder (a b : ScoredHit) : Bool :=
  decide (b.score < a.score) ||
    (a.score == b.score &&
      (decide (a.candidate.name < b.candidate.name) ||
        (a.candidate.name == b.candidate.name && decide (a.candidate.id ≤ b.candidate.id))))

/-- The hits for a query in lower case, ranked by one score: that of the exact hit is the sentinel, and
that of any other hit is the similarity of its name. -/
def hitsByScore (similarity : String → String → Nat) (sentinel : Nat) (r : Registry)
    (query : String) : List Candidate :=
  let hits := (r.features.filter (isHit query)).map fun feature =>
    { score := if feature.id == query then sentinel else similarity query feature.name
      candidate := Candidate.ofFeature feature }
  (hits.mergeSort scoreOrder).map ScoredHit.candidate

/-- A hit with its one score. -/
def Hit.withSentinel (sentinel : Nat) (hit : Hit) : ScoredHit where
  score := if hit.exact then sentinel else hit.similarity
  candidate := hit.candidate

/-- Hits are ordered by one score when exact hits have a greater one than others, and two exact hits are
one. -/
theorem hitOrder_eq_scoreOrder {sentinel : Nat} {a b : Hit} (ha : a.similarity < sentinel)
    (hb : b.similarity < sentinel) (hsame : a.exact = true → b.exact = true → a = b) :
    hitOrder a b = scoreOrder (a.withSentinel sentinel) (b.withSentinel sentinel) := by
  cases hexact : a.exact with
  | false =>
      cases hexact' : b.exact with
      | false => simp [hitOrder, scoreOrder, Hit.withSentinel, hexact, hexact']
      | true =>
          have hne : a.similarity ≠ sentinel := by omega
          simp [hitOrder, scoreOrder, Hit.withSentinel, hexact, hexact', hne, ha.le]
  | true =>
      cases hexact' : b.exact with
      | false => simp [hitOrder, scoreOrder, Hit.withSentinel, hexact, hexact', hb]
      | true =>
          obtain rfl := hsame hexact hexact'
          simp [hitOrder, scoreOrder, Hit.withSentinel]

/-- Hits may be ranked by one score, whatever sentinel above all similarities exact hits have. -/
theorem hitsFor_eq_hitsByScore {sentinel : Nat} (h : ∀ name, similarity query name < sentinel)
    (r : Registry) : hitsFor similarity r query = hitsByScore similarity sentinel r query := by
  have horder : ∀ a ∈ (r.features.filter (isHit query)).map (hitOf similarity query),
      ∀ b ∈ (r.features.filter (isHit query)).map (hitOf similarity query),
        hitOrder a b = scoreOrder (a.withSentinel sentinel) (b.withSentinel sentinel) := by
    intro a ha b hb
    obtain ⟨f, hf, rfl⟩ := List.mem_map.1 ha
    obtain ⟨g, hg, rfl⟩ := List.mem_map.1 hb
    refine hitOrder_eq_scoreOrder (h f.name) (h g.name) fun hexact hexact' => ?_
    have hid : f.id = g.id := (beq_iff_eq.1 hexact).trans (beq_iff_eq.1 hexact').symm
    rw [List.inj_on_of_nodup_map r.nodup_ids (List.mem_filter.1 hf).1 (List.mem_filter.1 hg).1 hid]
  have hsorted := congrArg (List.map ScoredHit.candidate) (List.map_mergeSort horder)
  rw [List.map_map, List.map_map] at hsorted
  rw [hitsFor_eq]
  exact hsorted

/-! ## The search -/

/-- An answer to a query in lower case: all candidates that mention it, none of them twice; the feature
whose id is the query first; and for the empty query the candidates as they are. -/
structure IsAnswer (r : Registry) (query : String) (answer : List Candidate) : Prop where
  perm : answer.Perm (r.candidates.filter fun c => c.Mentions query)
  nodup : (answer.map Candidate.id).Nodup
  blank : query = "" → answer = r.candidates
  first : query ≠ "" → ∀ feature, r.get? query = some feature →
    answer.head? = some (Candidate.ofFeature feature)

theorem isAnswer_searchBy (similarity : String → String → Nat) (r : Registry) (query : String) :
    IsAnswer r (Unicode.lowercase (Unicode.trim query)) (searchBy similarity r query) := by
  have hperm := searchBy_perm similarity r query
  refine ⟨hperm, ?_, ?_, ?_⟩
  · refine (hperm.map Candidate.id).nodup_iff.2 ?_
    exact r.nodup_map_id_candidates.sublist (List.filter_sublist.map Candidate.id)
  · intro hblank
    simp only [searchBy, hblank]
    rfl
  · intro hne feature hfeature
    obtain ⟨hmem, hid⟩ := get?_eq_some_iff.1 hfeature
    simp only [searchBy]
    rw [if_neg (mt String.isEmpty_iff.1 hne)]
    exact head?_hitsFor hmem hid

/-- The candidates are all features, and a search answers with those that mention the query, each once
and the feature of that id first, whatever the measure of similarity is. Where the measure stays below a
sentinel, the answer is ranked by one score, the sentinel being that of the exact hit. -/
theorem search_exact (r : Registry) (query : String) :
    let lowered := Unicode.lowercase (Unicode.trim query)
    r.candidates.Perm (r.features.map Candidate.ofFeature) ∧
      IsAnswer r lowered (r.search query) ∧
      ∀ similarity, IsAnswer r lowered (searchBy similarity r query) ∧
        ∀ sentinel, lowered ≠ "" → (∀ name, similarity lowered name < sentinel) →
          searchBy similarity r query = hitsByScore similarity sentinel r lowered := by
  intro lowered
  refine ⟨r.candidates_perm, isAnswer_searchBy nameSimilarity r query, fun similarity =>
    ⟨isAnswer_searchBy similarity r query, fun sentinel hne hbelow => ?_⟩⟩
  simp only [searchBy]
  rw [if_neg (mt String.isEmpty_iff.1 hne)]
  exact hitsFor_eq_hitsByScore hbelow r

/-- The id that is asked for comes first, although another feature has the same name and comes before it
in the order of ids. -/
theorem search_exact_grid :
    let grid : Feature := ⟨"grid", "Grid", "", "", {}⟩
    let cssGrid : Feature := ⟨"css-grid", "Grid", "", "", {}⟩
    let r : Registry := { features := [cssGrid, grid], nodup_ids := by decide }
    Unicode.lowercase (Unicode.trim " GRID") = "grid" ∧ r.get? "grid" = some grid ∧
      (r.search " GRID").head? = some (Candidate.ofFeature grid) ∧
      searchBy (fun _ _ => 1) r " GRID" = hitsByScore (fun _ _ => 1) 2 r "grid" := by
  intro grid cssGrid r
  have hlowered : Unicode.lowercase (Unicode.trim " GRID") = "grid" := by
    decide +kernel
  have hgrid : r.get? "grid" = some grid := by
    decide +kernel
  have hne : "grid" ≠ "" := by
    decide
  have hexact := search_exact r " GRID"
  rw [hlowered] at hexact
  obtain ⟨-, hanswer, hmeasured⟩ := hexact
  obtain ⟨-, hscored⟩ := hmeasured fun _ _ => 1
  exact ⟨hlowered, hgrid, hanswer.first hne grid hgrid, hscored 2 hne fun _ => by decide⟩

/-- The empty id is registered, but a blank query has another feature as its first hit. -/
theorem search_blank_not_first :
    ¬ ∀ (data : String) (r : Registry) (query : String) (feature : Feature),
      Registry.parse data = .ok r →
        r.get? (Unicode.lowercase (Unicode.trim query)) = some feature →
          (r.search query).head? = some (Candidate.ofFeature feature) := by
  intro hfirst
  let features := "\"grid\":\x7b\"name\":\"Grid\"\x7d,\"\":\x7b\"name\":\"Subgrid\"\x7d"
  let data := "\x7b\"browsers\":\x7b\x7d,\"features\":\x7b" ++ features ++ "\x7d\x7d"
  let grid : Feature := ⟨"grid", "Grid", "", "", {}⟩
  let nameless : Feature := ⟨"", "Subgrid", "", "", {}⟩
  have hlowered : Unicode.lowercase (Unicode.trim " ") = "" := by
    decide +kernel
  have hread : (match Registry.parse data with
      | .ok r => decide (r.features = [grid, nameless])
      | .error _ => false) = true := by
    decide +kernel
  cases hparse : Registry.parse data with
  | error e =>
      rw [hparse] at hread
      contradiction
  | ok r =>
      rw [hparse] at hread
      have hfeatures : r.features = [grid, nameless] := of_decide_eq_true hread
      have hid : r.get? (Unicode.lowercase (Unicode.trim " ")) = some nameless := by
        rw [hlowered, get?_eq_some_iff, hfeatures]
        exact ⟨by simp, rfl⟩
      have hsorted : (r.features.map Candidate.ofFeature).Pairwise fun a b => nameOrder a b = true := by
        rw [hfeatures]
        decide +kernel
      have hanswer : r.search " " = [grid, nameless].map Candidate.ofFeature := by
        rw [search, (isAnswer_searchBy nameSimilarity r " ").blank hlowered, candidates,
          List.mergeSort_of_pairwise hsorted, hfeatures]
      have hhead := hfirst data r " " nameless hparse hid
      rw [hanswer] at hhead
      exact absurd hhead (by decide)

end Registry

end FeatureRefs
