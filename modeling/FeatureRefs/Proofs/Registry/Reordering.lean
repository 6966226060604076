import FeatureRefs.Proofs.Json.Reordering
import FeatureRefs.Proofs.Registry.Rewriting

/-!
# Data in another order

Members may change places in any object of the data, in the tables and the records that are read and in the values
that stand in their fields: data from which tables are read is written in another way then. There is a lemma here
for every reader, about the documents that it reads.
-/

namespace FeatureRefs

open Json.Document (Reordered ListRewrites TableRewrites RecordRewrites)

theorem Release.rewrites_of_reordered {d d' : Json.Document} (h : Reordered d d') {release : Release}
    (hread : ofJson? d = some release) : Rewrites d d' := by
  obtain ⟨fields, hfields, -⟩ := Option.bind_eq_some_iff.1 hread
  refine RecordRewrites.of_reordered (by decide) h hfields ?_
  simp only [List.forall_mem_cons, List.not_mem_nil, false_imp_iff, implies_true, and_true]
  exact ⟨fun _ _ _ hx => hx, fun _ _ _ hx => hx⟩

theorem Browser.rewrites_of_reordered {d d' : Json.Document} (h : Reordered d d') {browser : Browser}
    (hread : ofJson? d = some browser) : Rewrites d d' := by
  simp only [ofJson?, Option.bind_eq_bind, Option.bind_eq_some_iff] at hread
  obtain ⟨fields, hfields, -, -, releases, hreleases, -⟩ := hread
  refine RecordRewrites.of_reordered (by decide) h hfields ?_
  simp only [List.forall_mem_cons, List.not_mem_nil, false_imp_iff, implies_true, and_true]
  refine ⟨fun _ _ _ hx => hx, fun x x' hlookup hx => ?_⟩
  have hitems := Json.read_of_fieldD hreleases hlookup
  cases x with
  | null | bool _ | number _ | string _ | object _ => contradiction
  | array items =>
      exact ListRewrites.of_reordered hx hitems fun _ _ _ hrelease hitem =>
        Release.rewrites_of_reordered hitem hrelease

theorem Availability.rewrites_of_reordered {depth : Nat} {d d' : Json.Document} (h : Reordered d d')
    {a : Availability} (hread : ofJson? depth d = some a) : Rewrites d d' := by
  simp only [ofJson?, Option.bind_eq_bind, Option.bind_eq_some_iff] at hread
  obtain ⟨fields, hfields, -, -, -, -, -, -, support, hsupport, -⟩ := hread
  refine RecordRewrites.of_reordered (by decide) h hfields ?_
  simp only [List.forall_mem_cons, List.not_mem_nil, false_imp_iff, implies_true, and_true]
  refine ⟨fun _ _ _ hx => hx, fun _ _ _ hx => hx, fun _ _ _ hx => hx, fun x x' hlookup hx => ?_⟩
  have htable : Json.readTable? (fun _ version => version.text?) x = some support :=
    Json.read_of_fieldD hsupport hlookup
  exact TableRewrites.of_reordered hx htable fun _ _ _ _ _ hversion => hversion

theorem Feature.rewrites_of_reordered {key : String} {d d' : Json.Document} (h : Reordered d d')
    {f? : Option Feature} (hread : ofJson? key d = some f?) : Rewrites d d' := by
  simp only [ofJson?, Option.bind_eq_bind, Option.bind_eq_some_iff] at hread
  obtain ⟨fields, hfields, -, -, -, -, -, -, availability, havailability, -⟩ := hread
  refine RecordRewrites.of_reordered (by decide) h hfields ?_
  simp only [List.forall_mem_cons, List.not_mem_nil, false_imp_iff, implies_true, and_true]
  refine ⟨fun _ _ _ hx => hx, fun _ _ _ hx => hx, fun _ _ _ hx => hx, fun x x' hlookup hx => ?_⟩
  exact Availability.rewrites_of_reordered hx (Json.read_of_fieldD havailability hlookup)

/-- Data from which the tables are read is written in another way when it is reordered. -/
theorem Registry.dataRewrites_of_reordered {data data' : Json.Document} (h : Reordered data data')
    {features : List Feature} {browsers : List (String × Browser)}
    (hread : readTables? data = some (some features, some browsers)) : DataRewrites data data' := by
  obtain ⟨fields, hfields, ⟨x, hx, -, hfeatures⟩, y, hy, -, hbrowsers⟩ :=
    readTables?_eq_some_iff.1 hread
  refine RecordRewrites.of_reordered (by decide) h hfields ?_
  simp only [List.forall_mem_cons, List.not_mem_nil, false_imp_iff, implies_true, and_true, hx, hy,
    Option.some_inj]
  constructor
  · rintro x x' rfl hreordered
    rw [readFeatures?_eq, Option.map_eq_some_iff] at hfeatures
    obtain ⟨entries, hentries, -⟩ := hfeatures
    exact TableRewrites.of_reordered hreordered hentries fun _ _ _ _ hfeature hentry =>
      Feature.rewrites_of_reordered hentry hfeature
  · rintro y y' rfl hreordered
    have htable : Json.readTable? (fun _ entry => Browser.ofJson? entry) y = some browsers := hbrowsers
    exact TableRewrites.of_reordered hreordered htable fun _ _ _ _ hbrowser hentry =>
      Browser.rewrites_of_reordered hentry hbrowser

end FeatureRefs
