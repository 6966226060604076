import Mathlib.Data.List.Forall2
import Mathlib.Data.List.Nodup
import FeatureRefs.Json.Record

/-!
# Look-ups by key

A list of pairs answers for each key with the first pair that has it. Where no two keys are the same, the
order of the pairs does not matter, and a table in which the last pair of a key counts is the list itself.
Where a key is repeated neither of this holds.
-/

namespace FeatureRefs

variable {α β : Type}

/-- Where no two keys are the same, a look-up finds whatever is there. -/
theorem lookup_eq_some_iff_mem {entries : List (String × α)} {name : String} {a : α}
    (h : (entries.map Prod.fst).Nodup) : entries.lookup name = some a ↔ (name, a) ∈ entries := by
  induction entries with
  | nil => simp
  | cons entry entries ih =>
      obtain ⟨key, b⟩ := entry
      rw [List.map_cons, List.nodup_cons] at h
      obtain ⟨hkey, hrest⟩ := h
      rw [List.lookup_cons, List.mem_cons, Prod.mk.injEq]
      by_cases hname : name = key
      · subst hname
        simp only [beq_self_eq_true, Option.some.injEq, true_and]
        constructor
        · rintro rfl
          exact .inl rfl
        · rintro (rfl | hmem)
          · rfl
          · exact absurd (List.mem_map_of_mem hmem) hkey
      · have hne : (name == key) = false := beq_false_of_ne hname
        rw [hne, ih hrest]
        constructor
        · exact .inr
        · rintro (⟨heq, -⟩ | hmem)
          · exact absurd heq hname
          · exact hmem

theorem lookup_eq_of_perm {entries entries' : List (String × α)}
    (h : (entries.map Prod.fst).Nodup) (hperm : entries.Perm entries') (name : String) :
    entries.lookup name = entries'.lookup name := by
  have h' : (entries'.map Prod.fst).Nodup := (hperm.map Prod.fst).nodup_iff.1 h
  apply Option.ext
  intro a
  rw [lookup_eq_some_iff_mem h, lookup_eq_some_iff_mem h', hperm.mem_iff]

theorem mem_of_lookup {entries : List (String × α)} {name : String} {a : α}
    (h : entries.lookup name = some a) : (name, a) ∈ entries := by
  obtain ⟨before, after, rfl, -⟩ := List.lookup_eq_some_iff.1 h
  exact List.mem_append_right _ List.mem_cons_self

/-- Two lists with the same keys, one by one, whose values are related. -/
def AreRelated (R : String → α → β → Prop) (entries : List (String × α))
    (entries' : List (String × β)) : Prop :=
  List.Forall₂ (fun a b => a.1 = b.1 ∧ R a.1 a.2 b.2) entries entries'

theorem AreRelated.map_fst_eq {R : String → α → β → Prop} {entries : List (String × α)}
    {entries' : List (String × β)} (h : AreRelated R entries entries') :
    entries.map Prod.fst = entries'.map Prod.fst := by
  induction h with
  | nil => rfl
  | cons hfirst hothers ih => rw [List.map_cons, List.map_cons, hfirst.1, ih]

theorem AreRelated.exists_mem {R : String → α → β → Prop} {entries : List (String × α)}
    {entries' : List (String × β)} (h : AreRelated R entries entries') {b : String × β}
    (hb : b ∈ entries') : ∃ a ∈ entries, a.1 = b.1 ∧ R a.1 a.2 b.2 := by
  induction h with
  | nil => contradiction
  | @cons a b' entries entries' hfirst hothers ih =>
      rcases List.mem_cons.1 hb with rfl | hlater
      · exact ⟨a, List.mem_cons_self, hfirst⟩
      · obtain ⟨a', ha', hrelated⟩ := ih hlater
        exact ⟨a', List.mem_cons_of_mem _ ha', hrelated⟩

/-- In lists with related values a look-up finds related values. -/
theorem AreRelated.rel_lookup {R : String → α → β → Prop} {entries : List (String × α)}
    {entries' : List (String × β)} (h : AreRelated R entries entries') (name : String) :
    Option.Rel (R name) (entries.lookup name) (entries'.lookup name) := by
  induction h with
  | nil => exact .none
  | @cons a b entries entries' hfirst hothers ih =>
      obtain ⟨key, x⟩ := a
      obtain ⟨key', y⟩ := b
      obtain ⟨rfl, hvalue⟩ := hfirst
      rw [List.lookup_cons, List.lookup_cons]
      by_cases hname : name = key
      · subst hname
        simp only [beq_self_eq_true]
        exact .some hvalue
      · rw [beq_false_of_ne hname]
        exact ih

theorem exists_of_rel_some {R : α → β → Prop} {a : α} {b? : Option β}
    (h : Option.Rel R (some a) b?) : ∃ b, b? = some b ∧ R a b := by
  cases h with
  | some hab => exact ⟨_, rfl, hab⟩

namespace Json

theorem foldl_putLast_of_nodup {table members : List (String × α)}
    (h : ((table ++ members).map Prod.fst).Nodup) :
    members.foldl (fun table m => putLast table m.1 m.2) table = table ++ members := by
  induction members generalizing table with
  | nil => rw [List.append_nil]; rfl
  | cons m members ih =>
      have hput : putLast table m.1 m.2 = table ++ [m] := by
        rw [putLast, List.filter_eq_self.2]
        intro entry hentry
        rw [List.map_append, List.nodup_append] at h
        exact bne_iff_ne.2 (h.2.2 _ (List.mem_map_of_mem hentry) _ List.mem_cons_self)
      rw [List.foldl_cons, hput, ih, List.append_assoc, List.singleton_append]
      rwa [List.append_assoc, List.singleton_append]

/-- A table without repeated keys is the list it is made of. -/
theorem tableOf_eq_self {members : List (String × α)} (h : (members.map Prod.fst).Nodup) :
    tableOf members = members :=
  @foldl_putLast_of_nodup α [] members h

end Json

end FeatureRefs
