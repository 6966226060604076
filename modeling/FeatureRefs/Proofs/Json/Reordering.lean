import FeatureRefs.Proofs.Json.Rewriting

/-!
# Reordered documents

When members change places in the objects of a document, an array keeps its items, each of them reordered, and an
object keeps its members, at other places and each of them reordered. So a list, a table or a record is written
in another way then, as far as its parts are.

For this there must be a list, a table or a record to read. Of an object with a field written twice, or with a
key that is no text, this is NOT said.
-/

namespace FeatureRefs

variable {α β : Type}

theorem forall₂_trans {R : α → α → Prop} (htrans : ∀ a b c, R a b → R b c → R a c)
    {first second third : List α} (h : List.Forall₂ R first second) (h' : List.Forall₂ R second third) :
    List.Forall₂ R first third := by
  induction h generalizing third with
  | nil =>
      cases h'
      exact .nil
  | cons hfirst hothers ih =>
      obtain ⟨c, others, hc, hrest, rfl⟩ := List.forall₂_cons_left_iff.1 h'
      exact .cons (htrans _ _ _ hfirst hc) (ih hrest)

/-- Where one list is reordered, a list that is related to it can be reordered along with it. -/
theorem exists_perm_of_forall₂ {R : α → β → Prop} {first : List α} {second moved : List β}
    (h : List.Forall₂ R first second) (hperm : second.Perm moved) :
    ∃ kept, first.Perm kept ∧ List.Forall₂ R kept moved := by
  obtain ⟨kept, hkept, hmoved⟩ := List.perm_comp_forall₂ hperm.symm h.flip
  exact ⟨kept, hmoved.symm, hkept.flip⟩

namespace AreRelated

theorem trans {R : α → α → Prop} (htrans : ∀ a b c, R a b → R b c → R a c)
    {first second third : List (String × α)} (h : AreRelated (fun _ => R) first second)
    (h' : AreRelated (fun _ => R) second third) : AreRelated (fun _ => R) first third :=
  forall₂_trans (fun _ _ _ hfirst hsecond =>
    ⟨hfirst.1.trans hsecond.1, htrans _ _ _ hfirst.2 hsecond.2⟩) h h'

theorem of_mem {R S : String → α → β → Prop} {entries : List (String × α)}
    {entries' : List (String × β)} (h : AreRelated R entries entries')
    (himp : ∀ e ∈ entries, ∀ b, R e.1 e.2 b → S e.1 e.2 b) : AreRelated S entries entries' := by
  induction h with
  | nil => exact .nil
  | cons hfirst hothers ih =>
      obtain ⟨he, hrest⟩ := List.forall_mem_cons.1 himp
      exact .cons ⟨hfirst.1, he _ hfirst.2⟩ (ih hrest)

/-- Related lists stay related when entries are picked by their keys. -/
theorem filter {R : String → α → β → Prop} {entries : List (String × α)}
    {entries' : List (String × β)} (h : AreRelated R entries entries') (p : String → Bool) :
    AreRelated R (entries.filter fun e => p e.1) (entries'.filter fun e => p e.1) :=
  List.rel_filter (fun e e' hentry => by
    show p e.1 = true ↔ p e'.1 = true
    rw [hentry.1]) h

theorem zip {R : α → β → Prop} {items : List α} {items' : List β} (h : List.Forall₂ R items items')
    (names : List String) : AreRelated (fun _ => R) (names.zip items) (names.zip items') := by
  induction h generalizing names with
  | nil =>
      rw [List.zip_nil_right, List.zip_nil_right]
      exact .nil
  | cons hfirst hothers ih =>
      cases names with
      | nil => exact .nil
      | cons name names => exact .cons ⟨rfl, hfirst⟩ (ih names)

end AreRelated

namespace Json.Document

/-! ## What is reordered -/

/-- The items of a reordered array are reordered one by one. -/
theorem Reordered.exists_items {items : List Document} {d' : Document}
    (h : Reordered (.array items) d') :
    ∃ items', d' = .array items' ∧ List.Forall₂ Reordered items items' := by
  generalize hd : Document.array items = d at h
  induction h generalizing items with
  | refl d => exact ⟨items, hd.symm, List.forall₂_same.2 fun item _ => .refl item⟩
  | trans first second ih ih' =>
      obtain ⟨middle, rfl, hfirst⟩ := ih hd
      obtain ⟨items', rfl, hsecond⟩ := ih' rfl
      exact ⟨items', rfl, forall₂_trans (fun _ _ _ => .trans) hfirst hsecond⟩
  | order perm => contradiction
  | member inside => contradiction
  | @item before after d d' inside =>
      cases hd
      have hbefore : List.Forall₂ Reordered before before := List.forall₂_same.2 fun item _ => .refl item
      have hafter : List.Forall₂ Reordered after after := List.forall₂_same.2 fun item _ => .refl item
      exact ⟨_, rfl, List.rel_append hbefore (.cons inside hafter)⟩

/-- The members of a reordered object are the same at other places, each of them reordered. -/
theorem Reordered.exists_members? {d d' : Document} (h : Reordered d d')
    {members : List (String × Document)} (hmembers : d.members? = some members) :
    ∃ kept members', d'.members? = some members' ∧ members.Perm kept ∧
      AreRelated (fun _ => Reordered) kept members' := by
  have hrefl (members : List (String × Document)) : AreRelated (fun _ => Reordered) members members :=
    List.forall₂_same.2 fun m _ => ⟨rfl, .refl m.2⟩
  induction h generalizing members with
  | refl d => exact ⟨members, members, hmembers, .refl _, hrefl members⟩
  | trans first second ih ih' =>
      obtain ⟨kept, middle, hmiddle, hperm, hrelated⟩ := ih hmembers
      obtain ⟨moved, members', hmembers', hperm', hrelated'⟩ := ih' hmiddle
      obtain ⟨kept', hmoved, hkept⟩ := exists_perm_of_forall₂ hrelated hperm'
      exact ⟨kept', members', hmembers', hperm.trans hmoved,
        AreRelated.trans (fun _ _ _ => .trans) hkept hrelated'⟩
  | order perm =>
      rw [members?, mapM_eq_some_iff] at hmembers
      obtain ⟨kept, hkept, hperm⟩ := List.perm_comp_forall₂ perm.symm hmembers
      exact ⟨kept, kept, mapM_eq_some_iff.2 hkept, hperm.symm, hrefl kept⟩
  | @member before after key d d' inside =>
      rw [members?, mapM_eq_some_iff] at hmembers
      obtain ⟨first, others, rfl, hbefore, hothers⟩ := exists_of_forall₂_append hmembers
      obtain ⟨m, last, hm, hafter, rfl⟩ := List.forall₂_cons_left_iff.1 hothers
      obtain ⟨name, rfl, rfl⟩ := Option.map_eq_some_iff.1 hm
      refine ⟨first ++ (name, d) :: last, first ++ (name, d') :: last, mapM_eq_some_iff.2 ?_, .refl _, ?_⟩
      · exact List.rel_append hbefore (.cons rfl hafter)
      · exact List.rel_append (hrefl first) (.cons ⟨rfl, inside⟩ (hrefl last))
  | item inside => contradiction

/-! ## Other ways to write what is read -/

theorem exists_of_mapM_eq_some {read : α → Option β} {items : List α} {values : List β}
    (h : items.mapM read = some values) : ∀ item ∈ items, ∃ value, read item = some value := by
  rw [mapM_eq_some_iff] at h
  induction h with
  | nil => simp
  | cons hfirst hothers ih => exact List.forall_mem_cons.2 ⟨⟨_, hfirst⟩, ih⟩

theorem ListRewrites.of_reordered {Rewrites : Document → Document → Prop} {items : List Document}
    {d' : Document} (h : Reordered (.array items) d') {read : Document → Option α} {values : List α}
    (hread : items.mapM read = some values)
    (hitem : ∀ x x' a, read x = some a → Reordered x x' → Rewrites x x') :
    ListRewrites Rewrites (.array items) d' := by
  obtain ⟨items', rfl, hrelated⟩ := h.exists_items
  have hboth := (List.forall₂_and_left _ _).2 ⟨exists_of_mapM_eq_some hread, hrelated⟩
  refine .items (hboth.imp fun x x' hx => ?_)
  obtain ⟨⟨a, ha⟩, hreordered⟩ := hx
  exact hitem x x' a ha hreordered

theorem TableRewrites.of_reordered {MayBeLeftOut : Document → Prop}
    {Rewrites : Document → Document → Prop} {d d' : Document} (h : Reordered d d')
    {read : String → Document → Option α} {entries : List (String × α)}
    (hread : readTable? read d = some entries)
    (hentry : ∀ key x x' a, read key x = some a → Reordered x x' → Rewrites x x') :
    TableRewrites MayBeLeftOut Rewrites d d' := by
  obtain ⟨members, hmembers, htable⟩ := Option.bind_eq_some_iff.1 hread
  obtain ⟨found, hfound, -⟩ := Option.bind_eq_some_iff.1 htable
  obtain ⟨kept, members', hmembers', hperm, hrelated⟩ := h.exists_members? hmembers
  refine @TableRewrites.members _ _ _ _ members members' kept [] hmembers hmembers' ?_ ?_ ?_
  · rwa [List.append_nil]
  · simp
  · refine hrelated.of_mem fun m hm x' hx => ?_
    obtain ⟨e, he⟩ := exists_of_mapM_eq_some hfound m (hperm.mem_iff.2 hm)
    obtain ⟨a, ha, -⟩ := Option.map_eq_some_iff.1 he
    exact hentry m.1 m.2 x' a ha hx

theorem nodup_of_fields? {names : List String} (hnames : names.Nodup) {d : Document}
    {read : List (String × Document)} (hread : d.fields? names = some read) :
    (read.map Prod.fst).Nodup := by
  cases d with
  | null | bool _ | number _ | string _ => contradiction
  | array items =>
      rw [fields?, fieldsByPosition?, Option.ite_none_right_eq_some, Option.some_inj] at hread
      obtain ⟨hle, rfl⟩ := hread
      rw [List.zip_eq_zip_take_min, List.map_fst_zip]
      · exact hnames.sublist (List.take_sublist _ _)
      · simp
  | object members =>
      obtain ⟨found, -, hknown⟩ := Option.bind_eq_some_iff.1 hread
      exact (fieldsByName?_eq_some_iff.1 hknown).2

theorem RecordRewrites.of_reordered {fields : FieldRelations} (hnames : (fields.map Prod.fst).Nodup)
    {d d' : Document} (h : Reordered d d') {read : List (String × Document)}
    (hread : d.fields? (fields.map Prod.fst) = some read)
    (hfields : ∀ field ∈ fields, ∀ x x', read.lookup field.1 = some x → Reordered x x' →
      field.2 x x') : RecordRewrites fields d d' := by
  have hnodup := nodup_of_fields? hnames hread
  have hentry : ∀ e ∈ read, ∀ x', Reordered e.2 x' → FieldRewrites fields e.1 e.2 x' := by
    intro e he x' hx field hfield hname
    have hlookup : read.lookup field.1 = some e.2 := by
      rw [hname]
      exact (lookup_eq_some_iff_mem hnodup).2 he
    exact hfields field hfield e.2 x' hlookup hx
  cases d with
  | null | bool _ | number _ | string _ => contradiction
  | array items =>
      obtain ⟨items', rfl, hitems⟩ := h.exists_items
      rw [fields?, fieldsByPosition?, Option.ite_none_right_eq_some, Option.some_inj] at hread
      obtain ⟨-, rfl⟩ := hread
      exact .byPosition hitems.length_eq ((AreRelated.zip hitems _).of_mem hentry)
  | object written =>
      obtain ⟨members, hmembers, hknown⟩ := Option.bind_eq_some_iff.1 hread
      obtain ⟨rfl, -⟩ := fieldsByName?_eq_some_iff.1 hknown
      obtain ⟨kept, members', hmembers', hperm, hrelated⟩ := h.exists_members? hmembers
      have hknownPerm := hperm.filter fun m => (fields.map Prod.fst).contains m.1
      refine .byName hmembers hmembers' hknownPerm ?_
      exact (hrelated.filter _).of_mem fun e he => hentry e (hknownPerm.mem_iff.2 he)

end Json.Document

theorem Json.read_of_fieldD {fields : List (String × Json.Document)} {name : String} {default a : α}
    {read : Json.Document → Option α} (h : Json.fieldD fields name default read = some a)
    {x : Json.Document} (hx : fields.lookup name = some x) : read x = some a := by
  rwa [Json.fieldD, hx] at h

end FeatureRefs
