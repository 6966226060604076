import FeatureRefs.Unicode.Blank
import FeatureRefs.Unicode.Case
import FeatureRefs.Registry.Similarity
import FeatureRefs.Registry.Status

/-!
# Searching features

A query matches a feature when its id, its name or its description contains it, case aside. The
feature whose id is the query comes first, then the others by the similarity of their name to the
query. Ties are broken by name and id, so the answer depends on the set of features alone.
-/

namespace FeatureRefs

/-- A feature as it is offered for picking. -/
structure Candidate where
  id : String
  name : String
  description : String
  descriptionHtml : String
  statusLabel : String
deriving Repr, DecidableEq

/-- The page of a feature on the web. -/
def exploreUrl (featureId : String) : String :=
  "https://webstatus.dev/features/" ++ featureId ++ "/"

namespace Candidate

/-- A feature offered for picking. -/
def ofFeature (feature : Feature) : Candidate where
  id := feature.id
  name := feature.name
  description := feature.description
  descriptionHtml := feature.descriptionHtml
  statusLabel := feature.status.label

/-- What is said of a picked candidate. -/
def summary (c : Candidate) : String :=
  c.id ++ " is Baseline " ++ c.statusLabel

/-- Where a picked candidate is explored. -/
def exploreUrl (c : Candidate) : String :=
  FeatureRefs.exploreUrl c.id

end Candidate

/-- Whether a text contains another. -/
def containsText (part : List Char) : List Char → Bool
  | [] => part.isEmpty
  | c :: rest => part.isPrefixOf (c :: rest) || containsText part rest

theorem containsText_iff {part text : List Char} :
    containsText part text = true ↔ part <:+: text := by
  induction text with
  | nil => simp [containsText]
  | cons c rest ih =>
      simp [containsText, ih, List.infix_cons_iff]

namespace Registry

/-- Whether a feature matches a query in lower case. -/
def isHit (query : String) (feature : Feature) : Bool :=
  containsText query.toList feature.id.toList ||
    containsText query.toList (Unicode.lowercase feature.name).toList ||
    containsText query.toList (Unicode.lowercase feature.description).toList

/-- The order of names in lower case, ties by id. -/
def nameOrder (a b : Candidate) : Bool :=
  let nameA := Unicode.lowercase a.name
  let nameB := Unicode.lowercase b.name
  decide (nameA < nameB) || (nameA == nameB && decide (a.id ≤ b.id))

/-- All features as candidates, in the order of their names. -/
def candidates (r : Registry) : List Candidate :=
  (r.features.map Candidate.ofFeature).mergeSort nameOrder

/-- A hit of a search with its place in the ranking. -/
structure Hit where
  /-- Whether the query is the id. -/
  exact : Bool
  /-- How similar the name is to the query. -/
  similarity : Nat
  candidate : Candidate
deriving Repr, DecidableEq

/-- The order of hits: an exact one first, then by falling similarity, then by name and id. -/
def hitOrder (a b : Hit) : Bool :=
  (a.exact && !b.exact) ||
    (a.exact == b.exact &&
      (decide (b.similarity < a.similarity) ||
        (a.similarity == b.similarity &&
          (decide (a.candidate.name < b.candidate.name) ||
            (a.candidate.name == b.candidate.name &&
              decide (a.candidate.id ≤ b.candidate.id))))))

/-- The hits for a query in lower case, best first. -/
def hitsFor (similarity : String → String → Nat) (r : Registry) (query : String) :
    List Candidate :=
  let hits := (r.features.filter (isHit query)).map fun feature =>
    { exact := feature.id == query
      similarity := similarity query feature.name
      candidate := Candidate.ofFeature feature }
  (hits.mergeSort hitOrder).map Hit.candidate

/-- The candidates for a query, best first, under a measure of similarity between query and name.
All features answer a blank query. -/
def searchBy (similarity : String → String → Nat) (r : Registry) (query : String) :
    List Candidate :=
  let query := Unicode.lowercase (Unicode.trim query)
  if query.isEmpty then r.candidates else hitsFor similarity r query

/-- How similar a name in any case is to a query in lower case. -/
def nameSimilarity (query name : String) : Nat :=
  Similarity.rank query.toList (Unicode.lowercase name).toList

/-- The candidates for a query, best first. -/
def search (r : Registry) (query : String) : List Candidate :=
  searchBy nameSimilarity r query

/-- A search finds the features that the query matches, and a blank query matches all. -/
theorem mem_search_iff {r : Registry} {query : String} {c : Candidate} :
    c ∈ r.search query ↔ ∃ feature ∈ r.features,
      isHit (Unicode.lowercase (Unicode.trim query)) feature = true ∧
        c = Candidate.ofFeature feature := by
  simp only [search, searchBy]
  generalize Unicode.lowercase (Unicode.trim query) = lowered
  split
  · rename_i hempty
    have hblank (feature : Feature) : isHit lowered feature = true := by
      have hnil : lowered.toList = [] := by simpa using hempty
      have hid : containsText lowered.toList feature.id.toList = true := by
        rw [containsText_iff, hnil]
        exact List.nil_infix
      simp [isHit, hid]
    simp only [candidates, List.mem_mergeSort, List.mem_map, hblank, true_and, eq_comm]
  · constructor
    · intro h
      obtain ⟨hit, hhit, rfl⟩ := List.mem_map.1 h
      rw [List.mem_mergeSort] at hhit
      obtain ⟨feature, hfeature, rfl⟩ := List.mem_map.1 hhit
      obtain ⟨hmem, hmatch⟩ := List.mem_filter.1 hfeature
      exact ⟨feature, hmem, hmatch, rfl⟩
    · rintro ⟨feature, hmem, hmatch, rfl⟩
      refine List.mem_map.2 ⟨_, List.mem_mergeSort.2 (List.mem_map.2 ⟨feature, ?_, rfl⟩), rfl⟩
      exact List.mem_filter.2 ⟨hmem, hmatch⟩

end Registry

end FeatureRefs
