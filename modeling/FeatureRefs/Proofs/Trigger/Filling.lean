import FeatureRefs.Proofs.Reference.Id
import FeatureRefs.Proofs.Trigger.Agreement

/-!
# What is written at a trigger

A place for an id is filled in: something is written behind a text that ends in a trigger. When the
text has no reference yet, and what is written leads to no other id, the first reference is the one
at the trigger, or there is none. Whatever stands unfinished before the trigger does not matter. An
earlier `baseline/` cannot reach what is written, for the trigger ends its run of id letters. An
earlier tag that is still open can, but then the id at the trigger is its own id too.
-/

namespace FeatureRefs

/-- A text in which nothing leads to an id: no mark that ends a lead stands before an id letter. -/
def LeadsNowhere (text : List Char) : Prop :=
  ∀ before c after, text = before ++ c :: after → foldCase c ∈ ['/', '=', '\'', '"'] →
    ¬ BeginsWithIdLetter after

theorem leadsNowhere_nil : LeadsNowhere [] := by
  rintro before c after h
  exact absurd (List.append_eq_nil_iff.1 h.symm).2 (by simp)

/-- A text without marks changes nothing in front of one that leads nowhere. -/
theorem leadsNowhere_append {text rest : List Char}
    (htext : ∀ c ∈ text, foldCase c ∉ ['/', '=', '\'', '"']) (hrest : LeadsNowhere rest) :
    LeadsNowhere (text ++ rest) := by
  rintro before c after hsplit hmark
  rcases List.append_eq_append_iff.1 hsplit with ⟨left, rfl, rfl⟩ | ⟨left, rfl, hleft⟩
  · exact hrest left c after rfl hmark
  · cases left with
    | nil => exact hrest [] c after hleft.symm hmark
    | cons d left =>
        obtain ⟨rfl, -⟩ := List.cons.inj hleft
        exact absurd hmark (htext c (by simp))

theorem leadsNowhere_of_letters {text : List Char} (h : ∀ c ∈ text, IsIdLetter c) :
    LeadsNowhere text := by
  rw [← List.append_nil text]
  refine leadsNowhere_append (fun c hc hmark => ?_) leadsNowhere_nil
  exact not_isIdLetter_of_foldCase_mem hmark (h c hc)

theorem firstReference_eq_none_iff {line : List Char} {n : Nat} :
    firstReference line n = none ↔ ∀ start form lead id, ¬ ReferenceAt line start form lead id := by
  rw [firstReference_eq_leftmost, Option.map_eq_none_iff, leftmost_referenceAt?_eq_none_iff]

theorem ReferenceAt.beginsWithIdLetter {line lead id after : List Char} {start : Nat}
    {form : ReferenceForm} (h : ReferenceAt line start form lead id) :
    BeginsWithIdLetter (id ++ after) := by
  obtain ⟨-, -, -, -, -, -, hid⟩ := h.exists_split
  obtain ⟨c, tail, rfl⟩ := List.exists_cons_of_ne_nil hid
  exact ⟨c, rfl, h.letters c List.mem_cons_self⟩

section

variable {seen rest lead id : List Char} {start : Nat} {form form' : ReferenceForm}

/-- The id of a reference does not begin inside a text that leads nowhere. -/
theorem ReferenceAt.length_lead_le (h : ReferenceAt (seen ++ rest) start form lead id)
    (hrest : LeadsNowhere rest) : lead.length ≤ seen.length := by
  by_contra hlt
  have hends : EndsInTrigger (lead ++ []) form lead [] := h.endsInTrigger
  obtain ⟨init, c, hlead, hmark, -⟩ := hends.exists_last
  obtain ⟨before, inner, after, hline, -, hinner, -⟩ := h.exists_split
  have hsplit : seen ++ rest = init ++ (c :: (id ++ after)) := by
    rw [hline, ← List.append_assoc, ← hinner, hlead, List.append_assoc]
    rfl
  have hle : seen.length ≤ init.length := by
    rw [hlead, List.length_append, List.length_singleton] at hlt
    omega
  obtain ⟨more, -, hmore⟩ := eq_append_of_length_le hsplit hle
  exact hrest more c (id ++ after) hmore hmark h.beginsWithIdLetter

/-- Behind a text that ends in a trigger and has no reference, every reference is at the trigger. -/
theorem EndsInTrigger.eq_of_referenceAt (hends : EndsInTrigger seen form seen [])
    (hnone : ∀ start form lead id, ¬ ReferenceAt seen start form lead id)
    (hrest : LeadsNowhere rest) (h : ReferenceAt (seen ++ rest) start form' lead id) :
    form' = form ∧ lead = seen ∧ idAt? form rest = some id := by
  obtain ⟨before, inner, after, hline, -, hinner, -⟩ := h.exists_split
  have hsplit : seen ++ rest = lead ++ (id ++ after) := by
    rw [hline, hinner, List.append_assoc]
  -- An id that begins earlier would be one of the text already, for the trigger stops its run.
  have hle : seen.length ≤ lead.length := by
    by_contra hlt
    have hletter : ∃ c ∈ seen.drop lead.length, ¬ IsIdLetter c := by
      obtain ⟨init, c, hseen, hmark, -⟩ := hends.exists_last
      refine ⟨c, ?_, not_isIdLetter_of_foldCase_mem hmark⟩
      rw [hseen, List.length_append, List.length_singleton] at hlt
      rw [hseen, List.drop_append_of_le_length (by omega)]
      simp
    obtain ⟨lead', id', hseen⟩ := h.exists_of_append (by omega) fun _ => hletter
    exact hnone _ _ _ _ hseen
  have hlength : seen.length = lead.length := Nat.le_antisymm hle (h.length_lead_le hrest)
  obtain ⟨rfl, rfl⟩ := List.append_inj hsplit hlength
  have hhere : EndsInTrigger (seen ++ []) form' seen [] := h.endsInTrigger
  rw [List.append_nil] at hhere
  obtain ⟨rfl, -, -⟩ := hhere.unique hends
  refine ⟨rfl, rfl, ?_⟩
  cases form' with
  | hotPhrase => exact boundedId?_eq_some_iff.2 ⟨after, rfl, h.isPhraseId rfl⟩
  | «attribute» =>
      have hrun : IsIdRun id after := h.isIdRun rfl
      exact idAt?_attribute_eq_some_iff.2 ⟨hrun.ne_nil, hrun.takeWhile_eq⟩

/-- Where an id is written at a trigger, some reference begins. -/
theorem EndsInTrigger.exists_referenceAt (hends : EndsInTrigger seen form seen [])
    (hid : idAt? form rest = some id) :
    ∃ start form' lead' id', ReferenceAt (seen ++ rest) start form' lead' id' := by
  generalize hlead : seen = lead at hends
  generalize htyped : ([] : List Char) = typed at hends
  cases hends with
  | @ofHotPhrase before keyword typed split spelled outside letters =>
      obtain ⟨after, rfl, hisPhraseId⟩ := boundedId?_eq_some_iff.1 hid
      exact ⟨_, _, _, _, .ofHotPhrase (List.append_assoc ..) ⟨spelled, outside, hisPhraseId⟩⟩
  | @ofAttribute before tag gap lead typed split spelled isOpen leads letters =>
      obtain ⟨hne, hrun⟩ := idAt?_attribute_eq_some_iff.1 hid
      have hbegins : BeginsWithIdLetter rest := by
        have hbegins := (isIdRun_takeWhile (hrun.symm ▸ hne)).begins
        rwa [List.takeWhile_append_dropWhile] at hbegins
      have hvalue : IsOpenValue (gap ++ lead ++ rest) gap lead rest := ⟨rfl, isOpen, leads, hbegins⟩
      obtain ⟨lead', id', hreference, -⟩ :=
        @exists_referenceAt_of_isOpenValue before _ _ _ _ _ spelled hvalue
      exact ⟨_, _, lead', id', by simpa only [List.append_assoc] using hreference⟩

/-- The first reference behind a text that ends in a trigger and has none yet is the one at the
trigger, if there is one. -/
theorem EndsInTrigger.firstReference_append {n : Nat} (hends : EndsInTrigger seen form seen [])
    (hnone : firstReference seen n = none) (hrest : LeadsNowhere rest) :
    firstReference (seen ++ rest) n =
      (idAt? form rest).map fun id => Occurrence.toReference ⟨seen, id⟩ form n := by
  have hseen := firstReference_eq_none_iff.1 hnone
  cases hid : idAt? form rest with
  | none =>
      rw [Option.map_none, firstReference_eq_none_iff]
      intro start form' lead id h
      obtain ⟨-, -, hsome⟩ := hends.eq_of_referenceAt hseen hrest h
      rw [hid] at hsome
      contradiction
  | some id =>
      have hne : firstReference (seen ++ rest) n ≠ none := by
        intro hnone'
        obtain ⟨start, form', lead, id', h⟩ := hends.exists_referenceAt hid
        exact firstReference_eq_none_iff.1 hnone' start form' lead id' h
      obtain ⟨r, hr⟩ := Option.ne_none_iff_exists'.1 hne
      obtain ⟨form', lead, id', ⟨start, h, -⟩, rfl⟩ := firstReference_eq_some_iff.1 hr
      obtain ⟨rfl, rfl, hsome⟩ := hends.eq_of_referenceAt hseen hrest h
      rw [hid, Option.some.injEq] at hsome
      rw [hr, hsome, Option.map_some]

end

end FeatureRefs
