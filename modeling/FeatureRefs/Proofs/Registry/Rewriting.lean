import FeatureRefs.Registry.Load
import FeatureRefs.Proofs.Json.Rewriting

/-!
# Data written in another way

The data of a registry is read alike when it is written in another way: with the members of its objects in
another order, with other members beside the fields that are read, and without entries that have no name.
Every reader has a lemma here that says so.

What is read is NOT alike in everything. The browsers that support a feature may be listed in another order, and
so may the features. And a member whose key is no text cannot stand beside the fields, for then nothing is read.
-/

namespace FeatureRefs

open Json.Document (Reordered ListRewrites TableRewrites RecordRewrites)

/-! ## Other ways to write the data -/

/-- A release, written in another way. -/
def Release.Rewrites : Json.Document → Json.Document → Prop :=
  RecordRewrites [("version", Reordered), ("date", Reordered)]

/-- A browser, written in another way. -/
def Browser.Rewrites : Json.Document → Json.Document → Prop :=
  RecordRewrites [("name", Reordered), ("releases", ListRewrites Release.Rewrites)]

/-- An availability, written in another way. -/
def Availability.Rewrites : Json.Document → Json.Document → Prop :=
  RecordRewrites [("baseline", Reordered), ("baseline_low_date", Reordered),
    ("baseline_high_date", Reordered), ("support", TableRewrites (fun _ => False) Reordered)]

/-- An entry of the table of features, written in another way. -/
def Feature.Rewrites : Json.Document → Json.Document → Prop :=
  RecordRewrites [("name", Reordered), ("description", Reordered), ("description_html", Reordered),
    ("status", Availability.Rewrites)]

/-- Whether an entry of the table of features has a name. -/
def Feature.isNamed (entry : Json.Document) : Bool :=
  ((entry.fields? ["name", "description", "description_html", "status"]).bind
    (·.lookup "name")).any (!·.isNull)

/-- The data, written in another way. Features without a name may be left out. -/
def Registry.DataRewrites : Json.Document → Json.Document → Prop :=
  RecordRewrites [("features", TableRewrites (Feature.isNamed · = false) Feature.Rewrites),
    ("browsers", TableRewrites (fun _ => False) Browser.Rewrites)]

/-- The keys under which the data has features with a name. -/
def Registry.namedKeys (data : Json.Document) : List String :=
  let entries? := do
    let fields ← data.fields? ["features", "browsers"]
    let table ← fields.lookup "features"
    table.members?
  ((entries?.getD []).filter (Feature.isNamed ·.2)).map Prod.fst

/-! ## What is read alike -/

/-- Two availabilities that say the same of every browser. -/
structure Availability.Alike (a a' : Availability) : Prop where
  level_eq : a.level = a'.level
  lowDate_eq : a.lowDate = a'.lowDate
  highDate_eq : a.highDate = a'.highDate
  lookup_eq : ∀ key, a.support.lookup key = a'.support.lookup key

/-- Two features that say the same, whatever the order is in which the browsers that support them are
listed. -/
structure Feature.Alike (f f' : Feature) : Prop where
  id_eq : f.id = f'.id
  name_eq : f.name = f'.name
  description_eq : f.description = f'.description
  descriptionHtml_eq : f.descriptionHtml = f'.descriptionHtml
  availability : f.availability.Alike f'.availability

theorem Availability.Alike.refl (a : Availability) : a.Alike a :=
  ⟨rfl, rfl, rfl, fun _ => rfl⟩

/-! ## Reading entries -/

theorem Release.ofJson?_eq_of_rewrites {d d' : Json.Document} (h : Rewrites d d') {release : Release}
    (hread : ofJson? d = some release) : ofJson? d' = some release := by
  simp only [ofJson?, Option.bind_eq_bind, Option.bind_eq_some_iff] at hread ⊢
  obtain ⟨fields, hfields, hread⟩ := hread
  obtain ⟨fields', hfields', hrel⟩ := h.exists_fields? hfields
  have hversion := Json.field?_eq (hrel ("version", Reordered) (by simp)) fun _ _ hx => hx.text?_eq
  have hdate := Json.field?_eq (hrel ("date", Reordered) (by simp)) fun _ _ hx => hx.text?_eq
  refine ⟨fields', hfields', ?_⟩
  rwa [← hversion, ← hdate]

theorem Browser.ofJson?_eq_of_rewrites {d d' : Json.Document} (h : Rewrites d d') {browser : Browser}
    (hread : ofJson? d = some browser) : ofJson? d' = some browser := by
  simp only [ofJson?, Option.bind_eq_bind, Option.bind_eq_some_iff] at hread ⊢
  obtain ⟨fields, hfields, name, hname, releases, hreleases, hbrowser⟩ := hread
  obtain ⟨fields', hfields', hrel⟩ := h.exists_fields? hfields
  have hnames := Json.field?_eq (hrel ("name", Reordered) (by simp)) fun _ _ hx => hx.text?_eq
  obtain ⟨releases', hreleases', rfl⟩ := Json.exists_fieldD Eq
    (hrel ("releases", ListRewrites Release.Rewrites) (by simp)) rfl
    (fun x x' found _ hx hfound => by
      cases hx with
      | items related =>
          exact ⟨found, Json.mapM_of_forall₂ related
            (fun _ _ _ hx => Release.ofJson?_eq_of_rewrites hx) hfound, rfl⟩) hreleases
  exact ⟨fields', hfields', name, hnames ▸ hname, releases, hreleases', hbrowser⟩

/-- An array or an object that is a value counts as limited. -/
theorem Level.ofJson?_of_isNested {d : Json.Document} (h : d.isNested = true) (depth : Nat) :
    ofJson? depth d = (d.toValue? (nestingLimit - depth)).map fun _ => .limited := by
  unfold ofJson?
  generalize nestingLimit - depth = room
  cases d with
  | null | bool _ | number _ | string _ => contradiction
  | array items =>
      cases room with
      | zero => rfl
      | succ room =>
          rw [Json.Document.toValue?, Option.map_map, Option.map_map]
          rfl
  | object members =>
      cases room with
      | zero => rfl
      | succ room =>
          rw [Json.Document.toValue?, Option.map_map, Option.map_map]
          rfl

theorem Level.ofJson?_eq_of_reordered {d d' : Json.Document} (h : Reordered d d') (depth : Nat) :
    ofJson? depth d = ofJson? depth d' := by
  rcases h.eq_or_isNested with rfl | ⟨hd, hd'⟩
  · rfl
  · rw [ofJson?_of_isNested hd, ofJson?_of_isNested hd']
    have hvalue := h.isSome_toValue?_iff (nestingLimit - depth)
    cases hfirst : d.toValue? (nestingLimit - depth) with
    | none =>
        cases hsecond : d'.toValue? (nestingLimit - depth) with
        | none => rfl
        | some value => simp [hfirst, hsecond] at hvalue
    | some value =>
        cases hsecond : d'.toValue? (nestingLimit - depth) with
        | none => simp [hfirst, hsecond] at hvalue
        | some value' => rfl

theorem Availability.exists_ofJson? {depth : Nat} {d d' : Json.Document} (h : Rewrites d d')
    (hd : d.Unrepeated) {a : Availability} (hread : ofJson? depth d = some a) :
    ∃ a', ofJson? depth d' = some a' ∧ a.Alike a' := by
  simp only [ofJson?, Option.bind_eq_bind, Option.bind_eq_some_iff, Option.pure_def,
    Option.some_inj] at hread ⊢
  obtain ⟨fields, hfields, level, hlevel, low, hlow, high, hhigh, support, hsupport, rfl⟩ := hread
  obtain ⟨fields', hfields', hrel⟩ := h.exists_fields? hfields
  have hlevels := Json.fieldD_eq Level.limited (hrel ("baseline", Reordered) (by simp))
    fun _ _ hx => Level.ofJson?_eq_of_reordered hx (depth + 1)
  have hlows := Json.fieldD_eq none (hrel ("baseline_low_date", Reordered) (by simp))
    fun _ _ hx => hx.optionalText?_eq
  have hhighs := Json.fieldD_eq none (hrel ("baseline_high_date", Reordered) (by simp))
    fun _ _ hx => hx.optionalText?_eq
  obtain ⟨support', hsupport', hlookup⟩ := Json.exists_fieldD
    (fun s s' : List (String × String) => ∀ key, s.lookup key = s'.lookup key)
    (hrel ("support", TableRewrites (fun _ => False) Reordered) (by simp)) (fun _ => rfl)
    (fun x x' found hx hrewrites hfound => by
      have htable : Json.readTable? (fun _ version => version.text?) x = some found := hfound
      exact hrewrites.exists_lookup_eq (hd.of_fields? hfields _ (mem_of_lookup hx))
        (fun _ _ _ _ _ hversion htext => hversion.text?_eq ▸ htext) htable)
    hsupport
  exact ⟨_, ⟨fields', hfields', level, hlevels ▸ hlevel, low, hlows ▸ hlow, high, hhighs ▸ hhigh,
    support', hsupport', rfl⟩, rfl, rfl, rfl, hlookup⟩

theorem Feature.exists_ofJson? {key : String} {d d' : Json.Document} (h : Rewrites d d')
    (hd : d.Unrepeated) {f? : Option Feature} (hread : ofJson? key d = some f?) :
    ∃ f?', ofJson? key d' = some f?' ∧ Option.Rel Alike f? f?' := by
  simp only [ofJson?, Option.bind_eq_bind, Option.bind_eq_some_iff, Option.pure_def,
    Option.some_inj] at hread ⊢
  obtain ⟨fields, hfields, name?, hname, description, hdescription, html, hhtml, availability,
    havailability, rfl⟩ := hread
  obtain ⟨fields', hfields', hrel⟩ := h.exists_fields? hfields
  have hnames := Json.fieldD_eq none (hrel ("name", Reordered) (by simp))
    fun _ _ hx => hx.optionalText?_eq
  have hdescriptions := Json.fieldD_eq "" (hrel ("description", Reordered) (by simp))
    fun _ _ hx => hx.text?_eq
  have hhtmls := Json.fieldD_eq "" (hrel ("description_html", Reordered) (by simp))
    fun _ _ hx => hx.text?_eq
  obtain ⟨availability', havailability', halike⟩ := Json.exists_fieldD Availability.Alike
    (hrel ("status", Availability.Rewrites) (by simp)) (Availability.Alike.refl {})
    (fun x x' found hx hrewrites hfound => Availability.exists_ofJson? hrewrites
      (hd.of_fields? hfields _ (mem_of_lookup hx)) hfound)
    havailability
  refine ⟨_, ⟨fields', hfields', name?, hnames ▸ hname, description, hdescriptions ▸ hdescription,
    html, hhtmls ▸ hhtml, availability', havailability', rfl⟩, ?_⟩
  cases name? with
  | none => exact .none
  | some name => exact .some ⟨rfl, rfl, rfl, rfl, halike⟩

/-! ## Reading the tables -/

/-- An entry is a feature if it has a name, and its id is the key in lower case. -/
theorem Feature.map_id_of_ofJson? {key : String} {d : Json.Document} {f? : Option Feature}
    (hread : ofJson? key d = some f?) :
    f?.map Feature.id = if isNamed d then some (Unicode.lowercase key) else none := by
  simp only [ofJson?, Option.bind_eq_bind, Option.bind_eq_some_iff, Option.pure_def,
    Option.some_inj] at hread
  obtain ⟨fields, hfields, name?, hname, description, -, html, -, availability, -, rfl⟩ := hread
  unfold Json.fieldD at hname
  rw [isNamed, hfields, Option.bind_some]
  cases hlookup : fields.lookup "name" with
  | none =>
      rw [hlookup] at hname
      obtain rfl := Option.some.inj hname
      rfl
  | some x =>
      rw [hlookup] at hname
      dsimp only at hname
      rw [Json.Document.optional?_eq] at hname
      rw [Option.any_some]
      cases hnull : x.isNull with
      | true =>
          rw [hnull] at hname
          obtain rfl := Option.some.inj hname
          rfl
      | false =>
          rw [hnull] at hname
          obtain ⟨name, -, rfl⟩ := Option.map_eq_some_iff.1 hname
          rfl

theorem readFeatures?_eq (d : Json.Document) :
    readFeatures? d = (Json.readTable? Feature.ofJson? d).map (·.filterMap Prod.snd) := by
  simp only [readFeatures?, Json.readTable?, Option.bind_eq_bind, Option.map_bind, Function.comp_def,
    Option.pure_def, Option.map_some]

/-- The ids of the features of a table are the keys of its named entries in lower case. -/
theorem map_id_of_areReadAs {members : List (String × Json.Document)}
    {entries : List (String × Option Feature)}
    (h : Json.AreReadAs Feature.ofJson? members entries) :
    (entries.filterMap Prod.snd).map Feature.id =
      ((members.filter (Feature.isNamed ·.2)).map Prod.fst).map Unicode.lowercase := by
  induction h with
  | nil => rfl
  | @cons m e members entries hfirst hothers ih =>
      have hid := Feature.map_id_of_ofJson? hfirst.2
      cases hnamed : Feature.isNamed m.2 with
      | false =>
          rw [hnamed, if_neg Bool.false_ne_true, Option.map_eq_none_iff] at hid
          rw [List.filterMap_cons_none hid, List.filter_cons_of_neg (by simp [hnamed])]
          exact ih
      | true =>
          rw [hnamed, if_pos rfl, Option.map_eq_some_iff] at hid
          obtain ⟨f, hf, hkey⟩ := hid
          have hkept : (m :: members).filter (Feature.isNamed ·.2) =
              m :: members.filter (Feature.isNamed ·.2) := List.filter_cons_of_pos hnamed
          rw [List.filterMap_cons_some hf, hkept, List.map_cons, List.map_cons, List.map_cons, ih, hkey]

/-- A table of features that is written in another way has the same features in some order. -/
theorem exists_readFeatures? {d d' : Json.Document}
    (h : TableRewrites (Feature.isNamed · = false) Feature.Rewrites d d') (hd : d.Unrepeated)
    {features : List Feature} (hread : readFeatures? d = some features) :
    ∃ features' kept, readFeatures? d' = some features' ∧ features.Perm kept ∧
      List.Forall₂ Feature.Alike kept features' := by
  rw [readFeatures?_eq, Option.map_eq_some_iff] at hread
  obtain ⟨entries, hentries, rfl⟩ := hread
  have hentry : ∀ key x x' f?, x.Unrepeated → Feature.Rewrites x x' →
      Feature.ofJson? key x = some f? →
      ∃ f?', Feature.ofJson? key x' = some f?' ∧ Option.Rel Feature.Alike f? f?' :=
    fun _ _ _ _ hx hrewrites hread => Feature.exists_ofJson? hrewrites hx hread
  obtain ⟨-, kept, leftOut, entries', hentries', hperm, hrelated, hleft⟩ :=
    h.exists_readTable? hd hentry hentries
  have hnone : leftOut.filterMap Prod.snd = [] := by
    rw [List.filterMap_eq_nil_iff]
    intro e he
    obtain ⟨x, hunnamed, hx⟩ := hleft e he
    have hid := Feature.map_id_of_ofJson? hx
    rwa [hunnamed, if_neg Bool.false_ne_true, Option.map_eq_none_iff] at hid
  refine ⟨entries'.filterMap Prod.snd, kept.filterMap Prod.snd, ?_, ?_, ?_⟩
  · rw [readFeatures?_eq, hentries']
    rfl
  · have hfeatures := hperm.filterMap Prod.snd
    rwa [List.filterMap_append, hnone, List.append_nil] at hfeatures
  · exact List.rel_filterMap (fun _ _ hentry => hentry.2) hrelated

theorem readTables?_eq_some_iff {data : Json.Document} {features : List Feature}
    {browsers : List (String × Browser)} :
    readTables? data = some (some features, some browsers) ↔
      ∃ fields, data.fields? ["features", "browsers"] = some fields ∧
        (∃ x, fields.lookup "features" = some x ∧ x.isNull = false ∧
          readFeatures? x = some features) ∧
        ∃ x, fields.lookup "browsers" = some x ∧ x.isNull = false ∧
          readBrowsers? x = some browsers := by
  simp only [readTables?, Option.bind_eq_bind, Option.bind_eq_some_iff, Option.pure_def,
    Option.some_inj, Prod.mk.injEq, ← Json.fieldD_optional?_eq_some_iff]
  constructor
  · rintro ⟨fields, hfields, features?, hfeatures, browsers?, hbrowsers, rfl, rfl⟩
    exact ⟨fields, hfields, hfeatures, hbrowsers⟩
  · rintro ⟨fields, hfields, hfeatures, hbrowsers⟩
    exact ⟨fields, hfields, _, hfeatures, _, hbrowsers, rfl, rfl⟩

/-- Data that is written in another way has the same features in some order, and the same browsers. -/
theorem exists_readTables? {data data' : Json.Document} (h : Registry.DataRewrites data data')
    (hdata : data.Unrepeated) {features : List Feature} {browsers : List (String × Browser)}
    (hread : readTables? data = some (some features, some browsers)) :
    ∃ features' browsers' kept, readTables? data' = some (some features', some browsers') ∧
      features.Perm kept ∧ List.Forall₂ Feature.Alike kept features' ∧
      ∀ key, browsers.lookup key = browsers'.lookup key := by
  obtain ⟨fields, hfields, ⟨x, hx, -, hfeatures⟩, y, hy, -, hbrowsers⟩ :=
    readTables?_eq_some_iff.1 hread
  obtain ⟨fields', hfields', hrel⟩ := h.exists_fields? hfields
  have hunrepeated := hdata.of_fields? hfields
  have hfeatureTable := hrel ("features", TableRewrites (Feature.isNamed · = false) Feature.Rewrites)
    (by simp)
  have hbrowserTable := hrel ("browsers", TableRewrites (fun _ => False) Browser.Rewrites) (by simp)
  dsimp only at hfeatureTable hbrowserTable
  rw [hx] at hfeatureTable
  rw [hy] at hbrowserTable
  obtain ⟨x', hx', htable⟩ := exists_of_rel_some hfeatureTable
  obtain ⟨y', hy', hbrowserRewrites⟩ := exists_of_rel_some hbrowserTable
  obtain ⟨features', kept, hfeatures', hperm, halike⟩ :=
    exists_readFeatures? htable (hunrepeated _ (mem_of_lookup hx)) hfeatures
  obtain ⟨browsers', hbrowsers', hlookup⟩ := hbrowserRewrites.exists_lookup_eq
    (hunrepeated _ (mem_of_lookup hy))
    (fun _ _ _ _ _ hrewrites hbrowser => Browser.ofJson?_eq_of_rewrites hrewrites hbrowser) hbrowsers
  refine ⟨features', browsers', kept, readTables?_eq_some_iff.2 ⟨fields', hfields', ?_, ?_⟩, hperm,
    halike, hlookup⟩
  · exact ⟨x', hx', htable.isNull_eq, hfeatures'⟩
  · exact ⟨y', hy', hbrowserRewrites.isNull_eq, hbrowsers'⟩

/-- The features of data are its entries with a name, under their keys in lower case. -/
theorem map_id_of_readTables? {data : Json.Document} (hdata : data.Unrepeated)
    {features : List Feature} {browsers : List (String × Browser)}
    (hread : readTables? data = some (some features, some browsers)) :
    features.map Feature.id = (Registry.namedKeys data).map Unicode.lowercase := by
  obtain ⟨fields, hfields, ⟨x, hx, -, hfeatures⟩, -⟩ := readTables?_eq_some_iff.1 hread
  rw [readFeatures?_eq, Option.map_eq_some_iff] at hfeatures
  obtain ⟨entries, hentries, rfl⟩ := hfeatures
  obtain ⟨members, hmembers, -⟩ := Option.bind_eq_some_iff.1 hentries
  have hnodup := ((hdata.of_fields? hfields _ (mem_of_lookup hx)).of_members? hmembers).1
  rw [map_id_of_areReadAs ((Json.readTable?_eq_some_iff hmembers hnodup).1 hentries)]
  simp only [Registry.namedKeys, hfields, hx, hmembers, Option.bind_eq_bind, Option.bind_some,
    Option.getD_some]

end FeatureRefs
