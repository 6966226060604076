import Mathlib.Data.List.Perm.Basic
import FeatureRefs.Proofs.Lookup

/-!
# Documents that say the same

A document is written in another way when the members of its objects change places, when a record gets or
loses members that it has no fields for, and when entries are left out of a table that count for nothing. What
may be different below a member depends on what it is read as, so the relations here are given what the parts
are related by.

A reader of a record or of a table gives the same for both, as far as it does for the parts. For a table that
is NOT so where keys are repeated, for then the last entry of a key counts.
-/

namespace FeatureRefs.Json

/-- A list is read item by item. -/
theorem mapM_eq_some_iff {α β : Type} {read : α → Option β} {items : List α} {values : List β} :
    items.mapM read = some values ↔
      List.Forall₂ (fun item value => read item = some value) items values := by
  induction items generalizing values with
  | nil =>
      rw [List.mapM_nil, List.forall₂_nil_left_iff]
      exact Option.some_inj.trans eq_comm
  | cons item items ih =>
      rw [List.mapM_cons, List.forall₂_cons_left_iff]
      simp only [Option.bind_eq_bind, Option.bind_eq_some_iff, Option.pure_def, Option.some_inj, ih]
      constructor
      · rintro ⟨value, hvalue, others, hothers, rfl⟩
        exact ⟨value, others, hvalue, hothers, rfl⟩
      · rintro ⟨value, others, hvalue, hothers, rfl⟩
        exact ⟨value, hvalue, others, hothers, rfl⟩

theorem mapM_of_forall₂ {α β : Type} {read : α → Option β} {Rewrites : α → α → Prop}
    {items items' : List α} (h : List.Forall₂ Rewrites items items')
    (hread : ∀ x x' b, Rewrites x x' → read x = some b → read x' = some b) {values : List β}
    (hvalues : items.mapM read = some values) : items'.mapM read = some values := by
  rw [mapM_eq_some_iff] at hvalues ⊢
  induction h generalizing values with
  | nil => exact hvalues
  | cons hfirst hothers ih =>
      obtain ⟨value, others, hvalue, hrest, rfl⟩ := List.forall₂_cons_left_iff.1 hvalues
      exact .cons (hread _ _ _ hfirst hvalue) (ih hrest)

/-! ## Other ways to write a document -/

namespace Document

/-- Two documents that differ in the order of the members of objects. -/
inductive Reordered : Document → Document → Prop where
  | refl (d : Document) : Reordered d d
  | trans {a b c : Document} (first : Reordered a b) (second : Reordered b c) : Reordered a c
  | order {members members' : List (Option String × Document)} (perm : members.Perm members') :
      Reordered (.object members) (.object members')
  | member {before after : List (Option String × Document)} {key : Option String} {d d' : Document}
      (inside : Reordered d d') :
      Reordered (.object (before ++ (key, d) :: after)) (.object (before ++ (key, d') :: after))
  | item {before after : List Document} {d d' : Document} (inside : Reordered d d') :
      Reordered (.array (before ++ d :: after)) (.array (before ++ d' :: after))

/-- Two arrays whose items are rewritten one by one. -/
inductive ListRewrites (Rewrites : Document → Document → Prop) : Document → Document → Prop where
  | items {items items' : List Document} (related : List.Forall₂ Rewrites items items') :
      ListRewrites Rewrites (.array items) (.array items')

/-- Two objects that are tables. Their entries are rewritten and may be in another order, and some that may
be left out are left out of the second. -/
inductive TableRewrites (MayBeLeftOut : Document → Prop) (Rewrites : Document → Document → Prop) :
    Document → Document → Prop where
  | members {d d' : Document} {members members' kept leftOut : List (String × Document)}
      (members_eq : d.members? = some members) (members_eq' : d'.members? = some members')
      (perm : members.Perm (kept ++ leftOut)) (areLeftOut : ∀ m ∈ leftOut, MayBeLeftOut m.2)
      (related : AreRelated (fun _ => Rewrites) kept members') :
      TableRewrites MayBeLeftOut Rewrites d d'

/-- The fields of a record, with what each of them is rewritten by. -/
abbrev FieldRelations := List (String × (Document → Document → Prop))

/-- What is written in a field is rewritten as the field wants it. -/
def FieldRewrites (fields : FieldRelations) (name : String) (d d' : Document) : Prop :=
  ∀ field ∈ fields, field.1 = name → field.2 d d'

/-- Two records. By name, the fields may be in another order, and members of other names may be different
ones. By position, there are as many fields in both. -/
inductive RecordRewrites (fields : FieldRelations) : Document → Document → Prop where
  | byName {d d' : Document} {members members' known : List (String × Document)}
      (members_eq : d.members? = some members) (members_eq' : d'.members? = some members')
      (perm : (members.filter fun m => (fields.map Prod.fst).contains m.1).Perm known)
      (related : AreRelated (FieldRewrites fields) known
        (members'.filter fun m => (fields.map Prod.fst).contains m.1)) :
      RecordRewrites fields d d'
  | byPosition {items items' : List Document} (length_eq : items.length = items'.length)
      (related : AreRelated (FieldRewrites fields) ((fields.map Prod.fst).zip items)
        ((fields.map Prod.fst).zip items')) :
      RecordRewrites fields (.array items) (.array items')

/-- A document in which no object has a key twice. Keys that are no text are not compared. -/
inductive Unrepeated : Document → Prop where
  | null : Unrepeated .null
  | bool (b : Bool) : Unrepeated (.bool b)
  | number (n : Numeral) : Unrepeated (.number n)
  | string (text? : Option String) : Unrepeated (.string text?)
  | array {items : List Document} (inside : ∀ item ∈ items, Unrepeated item) :
      Unrepeated (.array items)
  | object {members : List (Option String × Document)} (distinct : (members.filterMap Prod.fst).Nodup)
      (inside : ∀ m ∈ members, Unrepeated m.2) : Unrepeated (.object members)

/-! ## Values -/

/-- Whether a document is an array or an object. -/
def isNested : Document → Bool
  | .array _ | .object _ => true
  | _ => false

/-- Only arrays and objects can be reordered. -/
theorem Reordered.eq_or_isNested {d d' : Document} (h : Reordered d d') :
    d = d' ∨ d.isNested = true ∧ d'.isNested = true := by
  induction h with
  | refl d => exact .inl rfl
  | trans first second ih ih' =>
      rcases ih with rfl | ⟨hfirst, hmiddle⟩
      · exact ih'
      · rcases ih' with rfl | ⟨-, hlast⟩
        · exact .inr ⟨hfirst, hmiddle⟩
        · exact .inr ⟨hfirst, hlast⟩
  | order perm => exact .inr ⟨rfl, rfl⟩
  | member inside ih => exact .inr ⟨rfl, rfl⟩
  | item inside ih => exact .inr ⟨rfl, rfl⟩

theorem text?_of_isNested {d : Document} (h : d.isNested = true) : d.text? = none := by
  cases d with
  | null | bool _ | number _ | string _ => contradiction
  | array items => rfl
  | object members => rfl

/-- Whether a document is null. -/
def isNull : Document → Bool
  | .null => true
  | _ => false

theorem optional?_eq {α : Type} (read : Document → Option α) (d : Document) :
    d.optional? read = if d.isNull then some none else (read d).map some := by
  cases d with
  | null | bool _ | number _ | string _ | array _ | object _ => rfl

theorem isNull_of_isNested {d : Document} (h : d.isNested = true) : d.isNull = false := by
  cases d with
  | null | bool _ | number _ | string _ => contradiction
  | array _ | object _ => rfl

theorem Reordered.text?_eq {d d' : Document} (h : Reordered d d') : d.text? = d'.text? := by
  rcases h.eq_or_isNested with rfl | ⟨hd, hd'⟩
  · rfl
  · rw [text?_of_isNested hd, text?_of_isNested hd']

theorem Reordered.optionalText?_eq {d d' : Document} (h : Reordered d d') :
    d.optional? text? = d'.optional? text? := by
  rcases h.eq_or_isNested with rfl | ⟨hd, hd'⟩
  · rfl
  · rw [optional?_eq, optional?_eq, isNull_of_isNested hd, isNull_of_isNested hd', h.text?_eq]

theorem isSome_itemsToValues?_iff {room : Nat} {items : List Document} :
    (itemsToValues? room items).isSome = true ↔
      ∀ item ∈ items, (item.toValue? room).isSome = true := by
  induction items with
  | nil => simp [itemsToValues?]
  | cons item items ih =>
      rw [List.forall_mem_cons, ← ih, itemsToValues?]
      cases item.toValue? room with
      | none => simp
      | some value =>
          cases itemsToValues? room items with
          | none => simp
          | some values => simp

theorem isSome_membersToValues?_iff {room : Nat} {members : List (Option String × Document)} :
    (membersToValues? room members).isSome = true ↔
      ∀ m ∈ members, m.1.isSome = true ∧ (m.2.toValue? room).isSome = true := by
  induction members with
  | nil => simp [membersToValues?]
  | cons m members ih =>
      obtain ⟨key, member⟩ := m
      rw [List.forall_mem_cons, ← ih, membersToValues?]
      cases key with
      | none => simp
      | some key =>
          cases member.toValue? room with
          | none => simp
          | some value =>
              cases membersToValues? room members with
              | none => simp
              | some values => simp

/-- Whether a document is a value does not depend on the order of members. -/
theorem Reordered.isSome_toValue?_iff {d d' : Document} (h : Reordered d d') (room : Nat) :
    (d.toValue? room).isSome = true ↔ (d'.toValue? room).isSome = true := by
  induction h generalizing room with
  | refl d => rfl
  | trans first second ih ih' => rw [ih, ih']
  | order perm =>
      cases room with
      | zero => rfl
      | succ room =>
          rw [toValue?, toValue?, Option.isSome_map, Option.isSome_map, isSome_membersToValues?_iff,
            isSome_membersToValues?_iff]
          exact ⟨fun h m hm => h m (perm.mem_iff.2 hm), fun h m hm => h m (perm.mem_iff.1 hm)⟩
  | member inside ih =>
      cases room with
      | zero => rfl
      | succ room =>
          rw [toValue?, toValue?, Option.isSome_map, Option.isSome_map, isSome_membersToValues?_iff,
            isSome_membersToValues?_iff, List.forall_mem_append, List.forall_mem_append,
            List.forall_mem_cons, List.forall_mem_cons, ih]
  | item inside ih =>
      cases room with
      | zero => rfl
      | succ room =>
          rw [toValue?, toValue?, Option.isSome_map, Option.isSome_map, isSome_itemsToValues?_iff,
            isSome_itemsToValues?_iff, List.forall_mem_append, List.forall_mem_append,
            List.forall_mem_cons, List.forall_mem_cons, ih]

/-! ## Members and fields -/

theorem members?_eq_some_iff {d : Document} {members : List (String × Document)} :
    d.members? = some members ↔ d = .object (members.map fun m => (some m.1, m.2)) := by
  cases d with
  | null | bool _ | number _ | string _ | array _ =>
      constructor
      · intro h
        contradiction
      · intro h
        contradiction
  | object written =>
      have hkey (m : Option String × Document) (m' : String × Document) :
          m.1.map (·, m.2) = some m' ↔ m = (some m'.1, m'.2) := by
        rw [Option.map_eq_some_iff, Prod.ext_iff]
        constructor
        · rintro ⟨key, hkey, rfl⟩
          exact ⟨hkey, rfl⟩
        · rintro ⟨hkey, hvalue⟩
          exact ⟨m'.1, hkey, by rw [hvalue]⟩
      rw [members?, mapM_eq_some_iff, Document.object.injEq]
      simp only [hkey]
      rw [← List.forall₂_eq_eq_eq, List.forall₂_map_right_iff]

theorem isNested_of_members? {d : Document} {members : List (String × Document)}
    (h : d.members? = some members) : d.isNested = true := by
  rw [members?_eq_some_iff.1 h]
  rfl

theorem fields?_eq_of_members? {d : Document} {members : List (String × Document)}
    (h : d.members? = some members) (names : List String) :
    d.fields? names = fieldsByName? names members := by
  have hfields : d.fields? names = d.members?.bind (fieldsByName? names) := by
    rw [members?_eq_some_iff.1 h]
    rfl
  rw [hfields, h, Option.bind_some]

theorem fieldsByName?_eq_some_iff {α : Type} {names : List String} {members known : List (String × α)} :
    fieldsByName? names members = some known ↔
      members.filter (fun m => names.contains m.1) = known ∧ (known.map Prod.fst).Nodup := by
  rw [fieldsByName?, Option.ite_none_right_eq_some, Option.some_inj]
  constructor
  · rintro ⟨hnodup, rfl⟩
    exact ⟨rfl, hnodup⟩
  · rintro ⟨rfl, hnodup⟩
    exact ⟨hnodup, rfl⟩

theorem Unrepeated.of_members? {d : Document} (h : d.Unrepeated)
    {members : List (String × Document)} (hmembers : d.members? = some members) :
    (members.map Prod.fst).Nodup ∧ ∀ m ∈ members, m.2.Unrepeated := by
  obtain rfl := members?_eq_some_iff.1 hmembers
  cases h with
  | object distinct inside =>
      rw [List.filterMap_map] at distinct
      have hkeys : members.filterMap (Prod.fst ∘ fun m => (some m.1, m.2)) = members.map Prod.fst :=
        congrFun List.filterMap_eq_map' members
      rw [hkeys] at distinct
      exact ⟨distinct, fun m hm => inside _ (List.mem_map_of_mem hm)⟩

theorem Unrepeated.of_fields? {d : Document} (h : d.Unrepeated) {names : List String}
    {fields : List (String × Document)} (hfields : d.fields? names = some fields) :
    ∀ m ∈ fields, m.2.Unrepeated := by
  intro m hm
  cases h with
  | null | bool _ | number _ | string _ => contradiction
  | array inside =>
      rw [Document.fields?, fieldsByPosition?, Option.ite_none_right_eq_some, Option.some_inj]
        at hfields
      obtain ⟨-, rfl⟩ := hfields
      exact inside _ (List.of_mem_zip hm).2
  | object distinct inside =>
      obtain ⟨members, hmembers, hknown⟩ := Option.bind_eq_some_iff.1 hfields
      obtain ⟨rfl, -⟩ := fieldsByName?_eq_some_iff.1 hknown
      exact ((Unrepeated.object distinct inside).of_members? hmembers).2 m (List.mem_of_mem_filter hm)

/-! ## Records -/

theorem FieldRewrites.of_mem {fields : FieldRelations} {field : String × (Document → Document → Prop)}
    (hfield : field ∈ fields) {d d' : Document} (h : FieldRewrites fields field.1 d d') :
    field.2 d d' :=
  h field hfield rfl

/-- A record that is written in another way has the same fields, each written in another way. -/
theorem RecordRewrites.exists_fields? {fields : FieldRelations} {d d' : Document}
    (h : RecordRewrites fields d d') {read : List (String × Document)}
    (hread : d.fields? (fields.map Prod.fst) = some read) :
    ∃ read', d'.fields? (fields.map Prod.fst) = some read' ∧
      ∀ field ∈ fields, Option.Rel field.2 (read.lookup field.1) (read'.lookup field.1) := by
  have hfields {known : List (String × Document)} {read' : List (String × Document)}
      (hrelated : AreRelated (FieldRewrites fields) known read') :
      ∀ field ∈ fields, Option.Rel field.2 (known.lookup field.1) (read'.lookup field.1) := by
    intro field hfield
    have hrel := hrelated.rel_lookup field.1
    generalize known.lookup field.1 = first, read'.lookup field.1 = second at hrel
    cases hrel with
    | none => exact .none
    | some hrewrites => exact .some (hrewrites.of_mem hfield)
  cases h with
  | @byName _ _ members members' known members_eq members_eq' perm related =>
      rw [fields?_eq_of_members? members_eq, fieldsByName?_eq_some_iff] at hread
      obtain ⟨rfl, hnodup⟩ := hread
      have hnodup' : (known.map Prod.fst).Nodup := (perm.map Prod.fst).nodup_iff.1 hnodup
      refine ⟨members'.filter fun m => (fields.map Prod.fst).contains m.1, ?_,
        fun field hfield => ?_⟩
      · rw [fields?_eq_of_members? members_eq', fieldsByName?_eq_some_iff]
        exact ⟨rfl, related.map_fst_eq ▸ hnodup'⟩
      · rw [lookup_eq_of_perm hnodup perm]
        exact hfields related field hfield
  | @byPosition items items' length_eq related =>
      rw [fields?, fieldsByPosition?, Option.ite_none_right_eq_some, Option.some_inj] at hread
      obtain ⟨hle, rfl⟩ := hread
      refine ⟨(fields.map Prod.fst).zip items', ?_, hfields related⟩
      rw [fields?, fieldsByPosition?, if_pos (length_eq ▸ hle)]

end Document

/-! ## Tables -/

section

variable {α : Type} {read : String → Document → Option α} {Alike : α → α → Prop}

/-- Reads a table, in which the last entry of a key counts. -/
def readTable? (read : String → Document → Option α) (d : Document) :
    Option (List (String × α)) := do
  let members ← d.members?
  let entries ← members.mapM fun (key, entry) => (read key entry).map (key, ·)
  return tableOf entries

/-- The values that the entries of a table have. -/
def AreReadAs (read : String → Document → Option α) (members : List (String × Document))
    (entries : List (String × α)) : Prop :=
  AreRelated (fun key entry value => read key entry = some value) members entries

theorem mapM_entries_eq_some_iff {members : List (String × Document)} {entries : List (String × α)} :
    (members.mapM fun (key, entry) => (read key entry).map (key, ·)) = some entries ↔
      AreReadAs read members entries := by
  have hentry (m : String × Document) (e : String × α) :
      (read m.1 m.2).map (m.1, ·) = some e ↔ m.1 = e.1 ∧ read m.1 m.2 = some e.2 := by
    rw [Option.map_eq_some_iff]
    constructor
    · rintro ⟨value, hvalue, rfl⟩
      exact ⟨rfl, hvalue⟩
    · rintro ⟨hkey, hvalue⟩
      exact ⟨e.2, hvalue, by rw [hkey]⟩
  rw [mapM_eq_some_iff]
  simp only [hentry]
  rfl

/-- A table without repeated keys is read entry by entry. -/
theorem readTable?_eq_some_iff {d : Document} {members : List (String × Document)}
    (hmembers : d.members? = some members) (hnodup : (members.map Prod.fst).Nodup)
    {entries : List (String × α)} :
    readTable? read d = some entries ↔ AreReadAs read members entries := by
  simp only [readTable?, hmembers, Option.bind_eq_bind, Option.bind_some, Option.bind_eq_some_iff,
    Option.pure_def, Option.some_inj, mapM_entries_eq_some_iff]
  constructor
  · rintro ⟨found, hfound, rfl⟩
    rwa [tableOf_eq_self (hfound.map_fst_eq ▸ hnodup)]
  · intro h
    exact ⟨entries, h, tableOf_eq_self (h.map_fst_eq ▸ hnodup)⟩

/-- What is related to two lists in a row is two lists in a row. -/
theorem exists_of_forall₂_append {β γ : Type} {R : β → γ → Prop} {first second : List β}
    {related : List γ} (h : List.Forall₂ R (first ++ second) related) :
    ∃ first' second', related = first' ++ second' ∧ List.Forall₂ R first first' ∧
      List.Forall₂ R second second' :=
  ⟨related.take first.length, related.drop first.length, (List.take_append_drop _ _).symm,
    (List.forall₂_take_append _ _ _ h.flip).flip, (List.forall₂_drop_append _ _ _ h.flip).flip⟩

/-- Entries that are rewritten are read alike where single ones are. -/
theorem AreReadAs.exists_areReadAs {Rewrites : Document → Document → Prop}
    {members members' : List (String × Document)} {entries : List (String × α)}
    (h : AreReadAs read members entries) (hrewrites : AreRelated (fun _ => Rewrites) members members')
    (hread : ∀ m ∈ members, ∀ x' a, Rewrites m.2 x' → read m.1 m.2 = some a →
      ∃ a', read m.1 x' = some a' ∧ Alike a a') :
    ∃ entries', AreReadAs read members' entries' ∧ AreRelated (fun _ => Alike) entries entries' := by
  induction hrewrites generalizing entries with
  | nil =>
      cases h
      exact ⟨[], .nil, .nil⟩
  | @cons m m' members members' hfirst hothers ih =>
      obtain ⟨hm, hmembers⟩ := List.forall_mem_cons.1 hread
      obtain ⟨e, others, he, hrest, rfl⟩ := List.forall₂_cons_left_iff.1 h
      obtain ⟨a', ha', halike⟩ := hm m'.2 e.2 hfirst.2 he.2
      obtain ⟨others', hothers', hrelated⟩ := ih hrest hmembers
      refine ⟨(m'.1, a') :: others', .cons ⟨rfl, ?_⟩ hothers', .cons ⟨?_, halike⟩ hrelated⟩
      · rw [← hfirst.1]
        exact ha'
      · rw [← he.1]
        exact hfirst.1

theorem Document.TableRewrites.isNull_eq {MayBeLeftOut : Document → Prop}
    {Rewrites : Document → Document → Prop} {d d' : Document}
    (h : TableRewrites MayBeLeftOut Rewrites d d') : d'.isNull = false := by
  cases h with
  | members members_eq members_eq' perm areLeftOut related =>
      exact isNull_of_isNested (isNested_of_members? members_eq')

/-- A table that is written in another way is read alike, up to the order of its entries and to those that
are left out. -/
theorem Document.TableRewrites.exists_readTable? {MayBeLeftOut : Document → Prop}
    {Rewrites : Document → Document → Prop} {d d' : Document}
    (h : TableRewrites MayBeLeftOut Rewrites d d') (hd : d.Unrepeated)
    (hread : ∀ key x x' a, x.Unrepeated → Rewrites x x' → read key x = some a →
      ∃ a', read key x' = some a' ∧ Alike a a')
    {entries : List (String × α)} (hentries : readTable? read d = some entries) :
    (entries.map Prod.fst).Nodup ∧ ∃ kept leftOut entries', readTable? read d' = some entries' ∧
      entries.Perm (kept ++ leftOut) ∧ AreRelated (fun _ => Alike) kept entries' ∧
      ∀ e ∈ leftOut, ∃ x, MayBeLeftOut x ∧ read e.1 x = some e.2 := by
  cases h with
  | @members members members' keptMembers leftMembers members_eq members_eq' perm areLeftOut
      related =>
      obtain ⟨hnodup, hunrepeated⟩ := hd.of_members? members_eq
      have hreadAs := (readTable?_eq_some_iff members_eq hnodup).1 hentries
      obtain ⟨found, hfound, hperm⟩ := List.perm_comp_forall₂ perm.symm hreadAs
      obtain ⟨kept, leftOut, rfl, hkept, hleft⟩ : ∃ kept leftOut, found = kept ++ leftOut ∧
          AreReadAs read keptMembers kept ∧ AreReadAs read leftMembers leftOut :=
        exists_of_forall₂_append hfound
      have hmem : ∀ m ∈ keptMembers, m.2.Unrepeated := fun m hm =>
        hunrepeated m (perm.mem_iff.2 (List.mem_append_left _ hm))
      obtain ⟨entries', hreadAs', hrelated⟩ := hkept.exists_areReadAs related
        fun m hm x' a hx ha => hread m.1 m.2 x' a (hmem m hm) hx ha
      have hnodup' : (members'.map Prod.fst).Nodup := by
        have hall := (perm.map Prod.fst).nodup_iff.1 hnodup
        rw [List.map_append] at hall
        rw [← related.map_fst_eq]
        exact (List.nodup_append.1 hall).1
      refine ⟨hreadAs.map_fst_eq ▸ hnodup, kept, leftOut, entries', ?_, hperm.symm, hrelated, ?_⟩
      · exact (readTable?_eq_some_iff members_eq' hnodup').2 hreadAs'
      · intro e he
        obtain ⟨m, hm, hkey, hme⟩ := hleft.exists_mem he
        exact ⟨m.2, areLeftOut m hm, hkey ▸ hme⟩

/-- A table from which nothing may be left out answers every look-up as before. -/
theorem Document.TableRewrites.exists_lookup_eq {Rewrites : Document → Document → Prop}
    {d d' : Document} (h : TableRewrites (fun _ => False) Rewrites d d') (hd : d.Unrepeated)
    (hread : ∀ key x x' a, x.Unrepeated → Rewrites x x' → read key x = some a →
      read key x' = some a)
    {entries : List (String × α)} (hentries : readTable? read d = some entries) :
    ∃ entries', readTable? read d' = some entries' ∧
      ∀ key, entries.lookup key = entries'.lookup key := by
  obtain ⟨hnodup, kept, leftOut, entries', hentries', hperm, hrelated, hleft⟩ :=
    h.exists_readTable? hd (fun key x x' a hx hrewrites ha =>
      ⟨a, hread key x x' a hx hrewrites ha, (rfl : a = a)⟩) hentries
  have hnil : leftOut = [] := by
    rw [List.eq_nil_iff_forall_not_mem]
    intro e he
    obtain ⟨x, hfalse, -⟩ := hleft e he
    exact hfalse
  have hsame : kept = entries' := by
    have hpairs : (fun a b : String × α => a.1 = b.1 ∧ a.2 = b.2) = Eq := by
      funext a b
      exact propext Prod.ext_iff.symm
    rw [AreRelated, hpairs, List.forall₂_eq_eq_eq] at hrelated
    exact hrelated
  rw [hnil, List.append_nil, hsame] at hperm
  exact ⟨entries', hentries', lookup_eq_of_perm hnodup hperm⟩

end

/-! ## Reading fields -/

section

variable {α : Type} {fields fields' : List (String × Document)} {name : String}
  {Rewrites : Document → Document → Prop}

theorem fieldD_eq (default : α) {read : Document → Option α}
    (h : Option.Rel Rewrites (fields.lookup name) (fields'.lookup name))
    (hread : ∀ x x', Rewrites x x' → read x = read x') :
    fieldD fields name default read = fieldD fields' name default read := by
  unfold fieldD
  generalize fields.lookup name = first, fields'.lookup name = second at h
  cases h with
  | none => rfl
  | some hx => exact hread _ _ hx

theorem field?_eq {read : Document → Option α}
    (h : Option.Rel Rewrites (fields.lookup name) (fields'.lookup name))
    (hread : ∀ x x', Rewrites x x' → read x = read x') :
    field? fields name read = field? fields' name read := by
  unfold field?
  generalize fields.lookup name = first, fields'.lookup name = second at h
  cases h with
  | none => rfl
  | some hx => exact hread _ _ hx

/-- What is read of a field, or its default, is alike where the field is written in another way. -/
theorem exists_fieldD (Alike : α → α → Prop) {default : α} {read : Document → Option α}
    (h : Option.Rel Rewrites (fields.lookup name) (fields'.lookup name))
    (hdefault : Alike default default)
    (hread : ∀ x x' a, fields.lookup name = some x → Rewrites x x' → read x = some a →
      ∃ a', read x' = some a' ∧ Alike a a')
    {a : α} (ha : fieldD fields name default read = some a) :
    ∃ a', fieldD fields' name default read = some a' ∧ Alike a a' := by
  unfold fieldD at ha ⊢
  generalize fields.lookup name = first, fields'.lookup name = second at h ha hread
  cases h with
  | none =>
      obtain rfl := Option.some.inj ha
      exact ⟨default, rfl, hdefault⟩
  | some hx => exact hread _ _ a rfl hx ha

/-- What is read of a field that may be null and is not. -/
theorem fieldD_optional?_eq_some_iff {read : Document → Option α} {a : α} :
    fieldD fields name none (·.optional? read) = some (some a) ↔
      ∃ x, fields.lookup name = some x ∧ x.isNull = false ∧ read x = some a := by
  unfold fieldD
  cases fields.lookup name with
  | none => simp
  | some x =>
      cases hnull : x.isNull with
      | true => simp [Document.optional?_eq, hnull]
      | false => simp [Document.optional?_eq, hnull]

end

end FeatureRefs.Json
