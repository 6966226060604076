import FeatureRefs.Reference.Find

/-!
# Searching for both forms at once

Each form of a reference is searched for by itself, and of the two that are found the one that begins first
counts. One search that tries both forms at every place, the hot phrase first, finds the same.
-/

namespace FeatureRefs

/-- A reference that begins right here, with its form. -/
def referenceAt? (before text : List Char) : Option (Occurrence × ReferenceForm) :=
  match hotPhraseAt? before text with
  | some o => some (o.after before, .hotPhrase)
  | none => (attributeAt? text).map fun o => (o.after before, .attribute)

section

variable {α : Type} {recognise : List Char → List Char → Option α} {before rest : List Char} {c : Char}

theorem leftmost_cons_of_some {found : α} (h : recognise before (c :: rest) = some found) :
    leftmost recognise before (c :: rest) = some found := by
  rw [leftmost, h]

theorem leftmost_cons_of_none (h : recognise before (c :: rest) = none) :
    leftmost recognise before (c :: rest) = leftmost recognise (c :: before) rest := by
  rw [leftmost, h]

end

/-- What a search finds does not begin before the place where the search does. -/
theorem length_le_of_leftmost_placedAt? {recognise : List Char → List Char → Option Occurrence}
    {before text : List Char} {start : Nat} {o : Occurrence}
    (h : leftmost (placedAt? recognise) before text = some (start, o)) : before.length ≤ start := by
  obtain ⟨skipped, rest, -, -, hfound, -⟩ := leftmost_eq_some_iff.1 h
  obtain ⟨found, -, hpair⟩ := Option.map_eq_some_iff.1 hfound
  obtain ⟨rfl, -⟩ := Prod.mk.inj hpair
  rw [List.length_append]
  omega

/-- From any place on, one search for both forms finds the earlier one of what two searches find. -/
theorem leftmost_referenceAt?_eq (before text : List Char) :
    leftmost referenceAt? before text =
      earlier (leftmost (placedAt? hotPhraseAt?) before text)
        (leftmost (placedAt? fun _ rest => attributeAt? rest) before text) := by
  induction text generalizing before with
  | nil => rfl
  | cons c rest ih =>
      cases hphrase : hotPhraseAt? before (c :: rest) with
      | some o =>
          rw [leftmost_cons_of_some (by rw [referenceAt?, hphrase]),
            leftmost_cons_of_some (by rw [placedAt?, hphrase, Option.map_some])]
          cases hattribute : leftmost (placedAt? fun _ rest => attributeAt? rest) before (c :: rest) with
          | none => rfl
          | some found =>
              -- No attribute is found before this place.
              have hle := length_le_of_leftmost_placedAt? hattribute
              exact (if_neg (by omega)).symm
      | none =>
          rw [@leftmost_cons_of_none _ (placedAt? hotPhraseAt?) _ _ _
            (by rw [placedAt?, hphrase, Option.map_none])]
          cases hattribute : attributeAt? (c :: rest) with
          | some o =>
              rw [leftmost_cons_of_some (by rw [referenceAt?, hphrase, hattribute, Option.map_some]),
                leftmost_cons_of_some (by rw [placedAt?, hattribute, Option.map_some])]
              cases hlater : leftmost (placedAt? hotPhraseAt?) (c :: before) rest with
              | none => rfl
              | some found =>
                  -- Hot phrases are found behind this place only.
                  have hle := length_le_of_leftmost_placedAt? hlater
                  rw [List.length_cons] at hle
                  exact (if_pos (by omega)).symm
          | none =>
              rw [leftmost_cons_of_none (by rw [referenceAt?, hphrase, hattribute, Option.map_none]),
                leftmost_cons_of_none (by rw [placedAt?, hattribute, Option.map_none])]
              exact ih (c :: before)

/-- The first reference of a line is what one search for both forms finds first. -/
theorem firstReference_eq_leftmost (text : List Char) (line : Nat) :
    firstReference text line =
      (leftmost referenceAt? [] text).map fun (o, form) => o.toReference form line := by
  rw [leftmost_referenceAt?_eq]
  rfl

end FeatureRefs
