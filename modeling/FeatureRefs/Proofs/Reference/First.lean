import FeatureRefs.Proofs.Reference.Recognition
import FeatureRefs.Proofs.Reference.Search

/-!
# The first reference of a line

At one place of a line at most one reference begins, in one form and with one id. The search gives
the reference at the first place where one begins, and nothing exactly when none begins anywhere.
-/

namespace FeatureRefs

/-- The two forms begin with different characters. -/
theorem not_spells_baseline_of_spells_tag {keyword tag rest rest' : List Char}
    (hkeyword : Spells "baseline/" keyword) (htag : Spells "<baseline-status" tag) :
    keyword ++ rest ≠ tag ++ rest' := by
  intro h
  obtain ⟨c, tail, hc, -, rfl⟩ := List.forall₂_cons_left_iff.1 hkeyword
  obtain ⟨d, tail', hd, -, rfl⟩ := List.forall₂_cons_left_iff.1 htag
  obtain ⟨rfl, -⟩ := List.cons.inj h
  have hfold : foldCase 'b' = foldCase '<' :=
    (foldCase_eq_iff.2 hc).trans (foldCase_eq_iff.2 hd).symm
  exact absurd hfold (by decide)

theorem hotPhraseAt?_eq_none_of_attributeAt? {before text : List Char} {o : Occurrence}
    (h : attributeAt? text = some o) : hotPhraseAt? before.reverse text = none := by
  cases hphrase : hotPhraseAt? before.reverse text with
  | none => rfl
  | some found =>
      obtain ⟨tag, gap, lead, after, htext, -, hattribute⟩ := attributeAt?_eq_some_iff.1 h
      obtain ⟨after', htext', hphrase⟩ := hotPhraseAt?_eq_some_iff.1 hphrase
      exact absurd (htext'.symm.trans htext)
        (not_spells_baseline_of_spells_tag hphrase.spelled hattribute.spelled)

/-- A reference cuts its line at the place where it begins and on both sides of its id. -/
theorem ReferenceAt.exists_split {line lead id : List Char} {start : Nat} {form : ReferenceForm}
    (h : ReferenceAt line start form lead id) :
    ∃ before inner after, line = before ++ (inner ++ (id ++ after)) ∧ before.length = start ∧
      lead = before ++ inner ∧ id ≠ [] := by
  cases h with
  | ofHotPhrase split isHotPhrase =>
      exact ⟨_, _, _, split, rfl, rfl, isHotPhrase.isPhraseId.bounded.ne_nil⟩
  | ofAttribute split isAttribute =>
      exact ⟨_, _, _, by simpa using split, rfl, rfl, isAttribute.run.ne_nil⟩

/-- What is found at a place is the reference that begins there. -/
theorem referenceAt?_eq_some_iff {before rest : List Char} {o : Occurrence} {form : ReferenceForm} :
    referenceAt? before.reverse rest = some (o, form) ↔
      ReferenceAt (before ++ rest) before.length form o.before o.id := by
  constructor
  · intro h
    unfold referenceAt? at h
    split at h
    · rename_i found hfound
      obtain ⟨rfl, rfl⟩ := Prod.mk.inj (Option.some.inj h)
      simpa [Occurrence.after] using referenceAt_hotPhrase_iff.2 hfound
    · obtain ⟨found, hfound, hpair⟩ := Option.map_eq_some_iff.1 h
      obtain ⟨rfl, rfl⟩ := Prod.mk.inj hpair
      simpa [Occurrence.after] using referenceAt_attribute_iff.2 hfound
  · intro h
    obtain ⟨before', inner, after, hline, hlength, hlead, -⟩ := h.exists_split
    obtain ⟨rfl, -⟩ := List.append_inj hline hlength.symm
    have ho : o = Occurrence.after before.reverse ⟨inner, o.id⟩ := by
      simp [Occurrence.after, ← hlead]
    cases form with
    | hotPhrase =>
        have hfound : hotPhraseAt? before.reverse rest = some ⟨inner, o.id⟩ :=
          referenceAt_hotPhrase_iff.1 (by simpa [hlead] using h)
        rw [referenceAt?, hfound, ho]
        rfl
    | «attribute» =>
        have hfound : attributeAt? rest = some ⟨inner, o.id⟩ :=
          referenceAt_attribute_iff.1 (by simpa [hlead] using h)
        rw [referenceAt?, hotPhraseAt?_eq_none_of_attributeAt? hfound, hfound, ho]
        rfl

/-- At one place at most one reference begins. -/
theorem ReferenceAt.unique {line lead lead' id id' : List Char} {start : Nat}
    {form form' : ReferenceForm} (h : ReferenceAt line start form lead id)
    (h' : ReferenceAt line start form' lead' id') : form = form' ∧ lead = lead' ∧ id = id' := by
  obtain ⟨before, inner, after, rfl, rfl, -, -⟩ := h.exists_split
  have hfound : referenceAt? before.reverse (inner ++ (id ++ after)) = some (⟨lead, id⟩, form) :=
    referenceAt?_eq_some_iff.2 h
  have hfound' : referenceAt? before.reverse (inner ++ (id ++ after)) =
      some (⟨lead', id'⟩, form') :=
    referenceAt?_eq_some_iff.2 h'
  rw [hfound] at hfound'
  simpa [and_comm, and_assoc] using hfound'

theorem IsFirstReference.unique {line lead lead' id id' : List Char} {form form' : ReferenceForm}
    (h : IsFirstReference line form lead id) (h' : IsFirstReference line form' lead' id') :
    form = form' ∧ lead = lead' ∧ id = id' := by
  obtain ⟨start, hreference, hfirst⟩ := h
  obtain ⟨start', hreference', hfirst'⟩ := h'
  obtain rfl : start = start' :=
    Nat.le_antisymm (hfirst _ _ _ _ hreference') (hfirst' _ _ _ _ hreference)
  exact hreference.unique hreference'

/-- Where no reference begins nothing is found. -/
theorem referenceAt?_eq_none_iff {before rest : List Char} :
    referenceAt? before.reverse rest = none ↔
      ∀ form lead id, ¬ ReferenceAt (before ++ rest) before.length form lead id := by
  constructor
  · intro h form lead id hreference
    have hfound : referenceAt? before.reverse rest = some (⟨lead, id⟩, form) :=
      referenceAt?_eq_some_iff.2 hreference
    simp [h] at hfound
  · intro h
    cases hfound : referenceAt? before.reverse rest with
    | none => rfl
    | some found => exact absurd (referenceAt?_eq_some_iff.1 hfound) (h _ _ _)

theorem leftmost_referenceAt?_eq_none_iff {line : List Char} :
    leftmost referenceAt? [] line = none ↔
      ∀ start form lead id, ¬ ReferenceAt line start form lead id := by
  rw [leftmost_eq_none_iff]
  simp only [List.append_nil]
  constructor
  · intro h start form lead id hreference
    obtain ⟨before, inner, after, rfl, rfl, -, hid⟩ := hreference.exists_split
    have hnone := h before (inner ++ (id ++ after)) (by simp [hid]) rfl
    exact referenceAt?_eq_none_iff.1 hnone form lead id hreference
  · rintro h before rest - rfl
    exact referenceAt?_eq_none_iff.2 fun form lead id => h _ form lead id

/-- The search finds the first reference of a line. -/
theorem leftmost_referenceAt?_eq_some_iff {line : List Char} {o : Occurrence}
    {form : ReferenceForm} :
    leftmost referenceAt? [] line = some (o, form) ↔ IsFirstReference line form o.before o.id := by
  rw [leftmost_eq_some_iff]
  simp only [List.append_nil]
  constructor
  · rintro ⟨before, rest, -, rfl, hfound, hnone⟩
    refine ⟨before.length, referenceAt?_eq_some_iff.1 hfound, ?_⟩
    intro start form' lead id hreference
    obtain ⟨earlier, inner, after, hline, rfl, -, -⟩ := hreference.exists_split
    by_contra hlt
    have hnot := referenceAt?_eq_none_iff.1 (hnone earlier _ (by omega) hline) form' lead id
    rw [← hline] at hnot
    exact hnot hreference
  · rintro ⟨start, hreference, hfirst⟩
    obtain ⟨before, inner, after, rfl, rfl, -, hid⟩ := hreference.exists_split
    refine ⟨before, inner ++ (o.id ++ after), by simp [hid], rfl,
      referenceAt?_eq_some_iff.2 hreference, ?_⟩
    intro earlier later hlt hline
    refine referenceAt?_eq_none_iff.2 fun form' lead id hearlier => ?_
    rw [← hline] at hearlier
    have hle := hfirst _ form' lead id hearlier
    omega

/-- What is reported of the first reference of a line. -/
theorem firstReference_eq_some_iff {line : List Char} {n : Nat} {r : Reference} :
    firstReference line n = some r ↔
      ∃ form lead id, IsFirstReference line form lead id ∧
        r = Occurrence.toReference ⟨lead, id⟩ form n := by
  rw [firstReference_eq_leftmost, Option.map_eq_some_iff]
  constructor
  · rintro ⟨⟨o, form⟩, hfound, rfl⟩
    exact ⟨form, o.before, o.id, leftmost_referenceAt?_eq_some_iff.1 hfound, rfl⟩
  · rintro ⟨form, lead, id, hfirst, rfl⟩
    exact ⟨(⟨lead, id⟩, form), leftmost_referenceAt?_eq_some_iff.2 hfirst, rfl⟩

/-- The grammar of references is exact: nothing is reported exactly when no reference begins on the
line; the form, the id and the columns that are reported are those of the first reference that does;
and no two references begin at one place. -/
theorem firstReference_exact (line : List Char) (n : Nat) :
    (firstReference line n = none ↔ ∀ start form lead id, ¬ ReferenceAt line start form lead id) ∧
    (∀ r, firstReference line n = some r ↔
      ∃ form lead id, IsFirstReference line form lead id ∧
        r = { line := n
              startColumn := Text.utf16Length lead
              endColumn := Text.utf16Length lead + Text.utf16Length id
              featureId := Unicode.lowercase (String.ofList id)
              form := form }) ∧
    ∀ start form form' lead lead' id id', ReferenceAt line start form lead id →
      ReferenceAt line start form' lead' id' → form = form' ∧ lead = lead' ∧ id = id' := by
  refine ⟨?_, fun r => firstReference_eq_some_iff, ?_⟩
  · rw [firstReference_eq_leftmost, Option.map_eq_none_iff, leftmost_referenceAt?_eq_none_iff]
  · intro start form form' lead lead' id id' h h'
    exact h.unique h'

end FeatureRefs
