import FeatureRefs.Registry.Support
import FeatureRefs.Proofs.Registry.Ranking
import FeatureRefs.Proofs.Registry.Rewriting

/-!
# What the registry depends on

Data that is written in another way makes up a registry that answers everything alike. The registry has the
features with a name, under their keys in lower case, and nothing that is written beside the fields that are
read makes a difference.

For this no two features may have ids that differ in case only. Otherwise one takes the place of the other, and
which one it is DOES depend on the order of the entries.
-/

namespace FeatureRefs

open Json.Document (Reordered TableRewrites RecordRewrites)

/-! ## Features that say the same -/

theorem Feature.Alike.ofFeature_eq {f f' : Feature} (h : f.Alike f') :
    Candidate.ofFeature f = Candidate.ofFeature f' := by
  obtain ⟨hid, hname, hdescription, hhtml, havailability⟩ := h
  have hstatus : f.status = f'.status := by
    rw [Feature.status, Feature.status, Availability.status, Availability.status,
      havailability.level_eq, havailability.lowDate_eq, havailability.highDate_eq]
  rw [Candidate.ofFeature, Candidate.ofFeature, hid, hname, hdescription, hhtml, hstatus]

theorem Feature.Alike.isHit_eq {f f' : Feature} (h : f.Alike f') (query : String) :
    Registry.isHit query f = Registry.isHit query f' := by
  rw [Registry.isHit, Registry.isHit, h.id_eq, h.name_eq, h.description_eq]

theorem Feature.Alike.hitOf_eq {f f' : Feature} (h : f.Alike f')
    (similarity : String → String → Nat) (query : String) :
    Registry.hitOf similarity query f = Registry.hitOf similarity query f' := by
  rw [Registry.hitOf, Registry.hitOf, h.id_eq, h.name_eq, h.ofFeature_eq]

theorem map_eq_of_alike {α : Type} {entry : Feature → α}
    (hentry : ∀ f f', Feature.Alike f f' → entry f = entry f') {features features' : List Feature}
    (h : List.Forall₂ Feature.Alike features features') :
    features.map entry = features'.map entry := by
  induction h with
  | nil => rfl
  | cons hfirst hothers ih => rw [List.map_cons, List.map_cons, ih, hentry _ _ hfirst]

/-- Among features that say the same, one by one, those with an id say the same. -/
theorem rel_find?_of_alike {features features' : List Feature}
    (h : List.Forall₂ Feature.Alike features features') (id : String) :
    Option.Rel Feature.Alike (features.find? (·.id == id)) (features'.find? (·.id == id)) := by
  induction h with
  | nil => exact .none
  | @cons f f' features features' hfirst hothers ih =>
      rw [List.find?_cons, List.find?_cons, hfirst.id_eq]
      cases f'.id == id with
      | true => exact .some hfirst
      | false => exact ih

namespace Registry

/-! ## Answers -/

/-- Two registries that answer everything they are asked alike. -/
structure AnswersAlike (r r' : Registry) : Prop where
  size_eq : r.size = r'.size
  contains_eq : ∀ id, r.contains id = r'.contains id
  get?_alike : ∀ id, Option.Rel Feature.Alike (r.get? id) (r'.get? id)
  browser?_eq : ∀ browser, r.browser? browser = r'.browser? browser
  releaseDate_eq : ∀ key version, r.releaseDate key version = r'.releaseDate key version
  supportCells_eq : ∀ f f', Feature.Alike f f' → r.supportCells f = r'.supportCells f'
  candidates_eq : r.candidates = r'.candidates
  searchBy_eq : ∀ similarity query, searchBy similarity r query = searchBy similarity r' query
  search_eq : ∀ query, r.search query = r'.search query

theorem get?_eq_of_perm {r r' : Registry} (h : r.features.Perm r'.features) (id : String) :
    r.get? id = r'.get? id := by
  apply Option.ext
  intro f
  rw [get?_eq_some_iff, get?_eq_some_iff, h.mem_iff]

section

variable {r middle r' : Registry} (hperm : r.features.Perm middle.features)
  (halike : List.Forall₂ Feature.Alike middle.features r'.features)

include hperm halike

/-- What is answered does not depend on the order of the features, nor on what they say differently. -/
theorem get?_alike_of_alike (id : String) :
    Option.Rel Feature.Alike (r.get? id) (r'.get? id) := by
  rw [get?_eq_of_perm hperm]
  exact rel_find?_of_alike halike id

theorem contains_eq_of_alike (id : String) : r.contains id = r'.contains id := by
  rw [contains_eq_isSome, contains_eq_isSome]
  have hfound := get?_alike_of_alike hperm halike id
  generalize r.get? id = first, r'.get? id = second at hfound ⊢
  cases hfound with
  | none => rfl
  | some hsame => rfl

theorem candidates_eq_of_alike : r.candidates = r'.candidates := by
  have hentries := map_eq_of_alike (fun _ _ h => h.ofFeature_eq) halike
  rw [candidates_eq_of_perm hperm]
  exact congrArg (List.mergeSort · nameOrder) hentries

theorem hitsFor_eq_of_alike (similarity : String → String → Nat) (query : String) :
    hitsFor similarity r query = hitsFor similarity r' query := by
  have hhits : List.Forall₂ Feature.Alike (middle.features.filter (isHit query))
      (r'.features.filter (isHit query)) :=
    List.rel_filter (fun f f' hsame => by
      show isHit query f = true ↔ isHit query f' = true
      rw [hsame.isHit_eq]) halike
  have hentries := map_eq_of_alike (fun _ _ h => h.hitOf_eq similarity query) hhits
  rw [hitsFor_eq_of_perm hperm, hitsFor_eq, hitsFor_eq, ← hentries]

theorem searchBy_eq_of_alike (similarity : String → String → Nat) (query : String) :
    searchBy similarity r query = searchBy similarity r' query := by
  simp only [searchBy]
  split
  · exact candidates_eq_of_alike hperm halike
  · exact hitsFor_eq_of_alike hperm halike similarity _

end

theorem supportCells_eq_of_alike {r r' : Registry}
    (hbrowsers : ∀ key, r.browsers.lookup key = r'.browsers.lookup key) {f f' : Feature}
    (hsame : f.Alike f') : r.supportCells f = r'.supportCells f' := by
  refine List.map_congr_left fun browser _ => ?_
  have hversion : f.supportFor browser = f'.supportFor browser :=
    hsame.availability.lookup_eq browser.key
  have hname : r.browserName browser = r'.browserName browser := by
    rw [browserName, browserName, browser?, browser?, hbrowsers]
  have hdates : r.releaseDate browser.key = r'.releaseDate browser.key := by
    funext version
    rw [releaseDate, releaseDate, hbrowsers]
  rw [supportCell, supportCell, hversion, hname, hdates]

/-- Registries with the same browsers answer alike when the features of one, in another order, say the same as
those of the other. -/
theorem answersAlike_of_alike {r r' : Registry} {kept : List Feature} (hperm : r.features.Perm kept)
    (halike : List.Forall₂ Feature.Alike kept r'.features)
    (hbrowsers : ∀ key, r.browsers.lookup key = r'.browsers.lookup key) : r.AnswersAlike r' := by
  have hids : (kept.map Feature.id).Nodup := (hperm.map Feature.id).nodup_iff.1 r.nodup_ids
  obtain ⟨middle, rfl⟩ : ∃ middle : Registry, middle.features = kept := ⟨⟨kept, r.browsers, hids⟩, rfl⟩
  refine ⟨?_, contains_eq_of_alike hperm halike, get?_alike_of_alike hperm halike, ?_, ?_,
    fun _ _ => supportCells_eq_of_alike hbrowsers, candidates_eq_of_alike hperm halike,
    searchBy_eq_of_alike hperm halike, searchBy_eq_of_alike hperm halike nameSimilarity⟩
  · exact hperm.length_eq.trans halike.length_eq
  · intro browser
    exact hbrowsers browser.key
  · intro key version
    rw [releaseDate, releaseDate, hbrowsers]

/-! ## Registries of data -/

theorem foldl_put_of_nodup {r : Registry} {features : List Feature}
    (h : ((r.features ++ features).map Feature.id).Nodup) :
    (features.foldl put r).features = r.features ++ features ∧
      (features.foldl put r).browsers = r.browsers := by
  induction features generalizing r with
  | nil => exact ⟨(List.append_nil _).symm, rfl⟩
  | cons f features ih =>
      have hput : (r.put f).features = r.features ++ [f] := by
        have hkept : without r.features f.id = r.features := by
          rw [without, List.filter_eq_self]
          intro g hg
          rw [List.map_append, List.nodup_append] at h
          exact bne_iff_ne.2 (h.2.2 _ (List.mem_map_of_mem hg) _ List.mem_cons_self)
        exact congrArg (· ++ [f]) hkept
      have happend : r.features ++ f :: features = (r.put f).features ++ features := by
        rw [hput, List.append_assoc, List.singleton_append]
      rw [happend] at h ⊢
      exact ih h

/-- Where no feature takes the place of another, the registry has the features that are read. -/
theorem ofTables_of_nodup {features : List Feature} (h : (features.map Feature.id).Nodup)
    (browsers : List (String × Browser)) :
    (ofTables features browsers).features = features ∧
      (ofTables features browsers).browsers = browsers :=
  foldl_put_of_nodup h

theorem parse_eq_ok_iff {text : String} {data : Json.Document}
    (htext : Json.Document.parse? text = some data) {r : Registry} :
    parse text = .ok r ↔ ∃ features browsers,
      readTables? data = some (some features, some browsers) ∧ ofTables features browsers = r := by
  simp only [parse, htext, ofJson]
  cases htables : readTables? data with
  | none => simp
  | some tables =>
      obtain ⟨features?, browsers?⟩ := tables
      cases features? with
      | none => simp
      | some features =>
          cases browsers? with
          | none => simp
          | some browsers => simp

/-- A registry is loaded from data without repeated keys, in which no two features have ids that differ in case
only. From the data written in another way a registry is loaded, too, and it answers everything alike. An id is
registered when it is the key of a feature with a name in lower case, and then it is the id of that feature. -/
theorem parse_of_dataRewrites {text text' : String} {data data' : Json.Document}
    (htext : Json.Document.parse? text = some data) (htext' : Json.Document.parse? text' = some data')
    (hdata : data.Unrepeated) (hids : ((namedKeys data).map Unicode.lowercase).Nodup)
    {r : Registry} (hload : parse text = .ok r) (h : DataRewrites data data') :
    (∃ r', parse text' = .ok r' ∧ r.AnswersAlike r') ∧
      ∀ id, (r.contains id = true ↔ ∃ key ∈ namedKeys data, Unicode.lowercase key = id) ∧
        (r.contains id = true → ∃ f, r.get? id = some f ∧ f.id = id) := by
  obtain ⟨features, browsers, hread, rfl⟩ := (parse_eq_ok_iff htext).1 hload
  have hkeys := map_id_of_readTables? hdata hread
  rw [← hkeys] at hids
  obtain ⟨hfeatures, hbrowsers⟩ := ofTables_of_nodup hids browsers
  refine ⟨?_, fun id => ⟨?_, ?_⟩⟩
  · obtain ⟨features', browsers', kept, hread', hperm, halike, hlookup⟩ :=
      exists_readTables? h hdata hread
    have hids' : (features'.map Feature.id).Nodup := by
      rw [← map_eq_of_alike (fun _ _ hsame => hsame.id_eq) halike]
      exact (hperm.map Feature.id).nodup_iff.1 hids
    obtain ⟨hfeatures', hbrowsers'⟩ := ofTables_of_nodup hids' browsers'
    refine ⟨_, (parse_eq_ok_iff htext').2 ⟨features', browsers', hread', rfl⟩, ?_⟩
    rw [← hfeatures] at hperm
    rw [← hfeatures'] at halike
    rw [← hbrowsers, ← hbrowsers'] at hlookup
    exact answersAlike_of_alike hperm halike hlookup
  · rw [contains_iff, hfeatures, ← List.mem_map, ← List.mem_map, hkeys]
  · intro hcontains
    rw [contains_eq_isSome, Option.isSome_iff_exists] at hcontains
    obtain ⟨f, hf⟩ := hcontains
    exact ⟨f, hf, (get?_eq_some_iff.1 hf).2⟩

/-- An unknown member, another order and an entry less make no difference. -/
theorem parse_of_dataRewrites_grid :
    let text :=
      "\x7b\"features\":\x7b\"Grid\":\x7b\"name\":\"Grid\"\x7d,\"old\":\x7b\x7d\x7d,\"browsers\":\x7b\x7d\x7d"
    let text' :=
      "\x7b\"x\":null,\"browsers\":\x7b\x7d,\"features\":\x7b\"Grid\":\x7b\"name\":\"Grid\"\x7d\x7d\x7d"
    ∃ r r', parse text = .ok r ∧ parse text' = .ok r' ∧ r.AnswersAlike r' ∧
      r.contains "grid" = true := by
  intro text text'
  let name : Json.Document := .string (some "Grid")
  let grid : Json.Document := .object [(some "name", name)]
  let features : Json.Document := .object [(some "Grid", grid), (some "old", .object [])]
  let features' : Json.Document := .object [(some "Grid", grid)]
  let browsers : Json.Document := .object []
  let data : Json.Document := .object [(some "features", features), (some "browsers", browsers)]
  let data' : Json.Document :=
    .object [(some "x", .null), (some "browsers", browsers), (some "features", features')]
  have htext : Json.Document.parse? text = some data := by
    refine Option.bind_eq_some_iff.2 ⟨[.openObject, .string "features", .colon, .openObject,
      .string "Grid", .colon, .openObject, .string "name", .colon, .string "Grid", .closeObject, .comma,
      .string "old", .colon, .openObject, .closeObject, .closeObject, .comma,
      .string "browsers", .colon, .openObject, .closeObject, .closeObject], ?_, rfl⟩
    decide +kernel
  have htext' : Json.Document.parse? text' = some data' := by
    refine Option.bind_eq_some_iff.2 ⟨[.openObject, .string "x", .colon, .null, .comma,
      .string "browsers", .colon, .openObject, .closeObject, .comma,
      .string "features", .colon, .openObject, .string "Grid", .colon, .openObject, .string "name",
      .colon, .string "Grid", .closeObject, .closeObject, .closeObject], ?_, rfl⟩
    decide +kernel
  have hdata : data.Unrepeated := by
    have hempty : Json.Document.Unrepeated (.object []) := .object .nil (by simp)
    have hgrid : grid.Unrepeated := .object (by simp) (by simp [name, Json.Document.Unrepeated.string])
    have hfeatures : features.Unrepeated := .object (by simp) (by simp [hgrid, hempty])
    exact .object (by simp) (by simp [browsers, hfeatures, hempty])
  have hkeys : namedKeys data = ["Grid"] := by
    rfl
  obtain ⟨r, hload⟩ : ∃ r, parse text = .ok r :=
    ⟨_, (parse_eq_ok_iff htext).2 ⟨_, _, rfl, rfl⟩⟩
  have hgrid : Feature.Rewrites grid grid := by
    refine @RecordRewrites.byName _ _ _ [("name", name)] [("name", name)] [("name", name)] rfl rfl
      (.refl _) (.cons ⟨rfl, ?_⟩ .nil)
    simp [Json.Document.FieldRewrites, Reordered.refl]
  have hfeatures : TableRewrites (Feature.isNamed · = false) Feature.Rewrites features features' :=
    @TableRewrites.members _ _ _ _ [("Grid", grid), ("old", .object [])] [("Grid", grid)]
      [("Grid", grid)] [("old", .object [])] rfl rfl (.refl _) (by simp; rfl) (.cons ⟨rfl, hgrid⟩ .nil)
  have hbrowsers : TableRewrites (fun _ => False) Browser.Rewrites browsers browsers :=
    @TableRewrites.members _ _ _ _ [] [] [] [] rfl rfl (.refl _) (by simp) .nil
  have hrewrites : DataRewrites data data' := by
    refine @RecordRewrites.byName _ _ _ [("features", features), ("browsers", browsers)]
      [("x", .null), ("browsers", browsers), ("features", features')]
      [("browsers", browsers), ("features", features)] rfl rfl (.swap _ _ _)
      (.cons ⟨rfl, ?_⟩ (.cons ⟨rfl, ?_⟩ .nil))
    · simp [Json.Document.FieldRewrites, hbrowsers]
    · simp [Json.Document.FieldRewrites, hfeatures]
  obtain ⟨⟨r', hload', halike⟩, hids⟩ := parse_of_dataRewrites htext htext' hdata
    (by simp [hkeys]) hload hrewrites
  refine ⟨r, r', hload, hload', halike, (hids "grid").1.2 ⟨"Grid", ?_, ?_⟩⟩
  · simp [hkeys]
  · decide +kernel

end Registry

end FeatureRefs
