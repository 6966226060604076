import FeatureRefs.Proofs.Trigger.Recognition

/-!
# Triggers inside references

References and triggers have grammars of their own. They agree on where an id starts: for a cursor
anywhere in the first reference of a line, both ends included, there is a trigger, it begins where
the id begins, it has the form of the reference, and what is typed is the text of the line up to the
cursor. So an id that is recognised can be completed at any place of it.
-/

namespace FeatureRefs

/-- The letters of ids take one column each. -/
theorem IsIdLetter.utf16Size_eq {c : Char} (h : IsIdLetter c) : Text.utf16Size c = 1 := by
  have hsmall : c.toNat < 0x10000 := by
    rcases h with ⟨-, hlast⟩ | ⟨-, hlast⟩ | rfl | rfl | rfl
    · exact Nat.lt_of_le_of_lt (le_iff_toNat_le.1 hlast) (by decide)
    · exact Nat.lt_of_le_of_lt (le_iff_toNat_le.1 hlast) (by decide)
    · decide
    · decide
    · decide
  rw [Text.utf16Size, if_pos hsmall]

theorem utf16Length_of_letters {id : List Char} (h : ∀ c ∈ id, IsIdLetter c) :
    Text.utf16Length id = id.length := by
  induction id with
  | nil => rfl
  | cons c id ih =>
      have hc : Text.utf16Size c = 1 := (h c List.mem_cons_self).utf16Size_eq
      have hrest := ih fun d hd => h d (List.mem_cons_of_mem c hd)
      rw [Text.utf16Length_cons, hc, hrest, List.length_cons, Nat.add_comm]

theorem ReferenceAt.letters {line lead id : List Char} {start : Nat} {form : ReferenceForm}
    (h : ReferenceAt line start form lead id) : ∀ c ∈ id, IsIdLetter c := by
  cases h with
  | ofHotPhrase split isHotPhrase => exact isHotPhrase.isPhraseId.bounded.letters
  | ofAttribute split isAttribute => exact isAttribute.run.letters

/-- A line that is cut inside the id of a reference ends in a trigger of the same form. -/
theorem ReferenceAt.endsInTrigger {line lead typed more : List Char} {start : Nat}
    {form : ReferenceForm} (h : ReferenceAt line start form lead (typed ++ more)) :
    EndsInTrigger (lead ++ typed) form lead typed := by
  have hletters : ∀ c ∈ typed, IsIdLetter c :=
    fun c hc => h.letters c (List.mem_append_left more hc)
  generalize hid : typed ++ more = id at h
  cases h with
  | ofHotPhrase split isHotPhrase =>
      exact .ofHotPhrase (List.append_assoc ..) isHotPhrase.spelled isHotPhrase.outside hletters
  | ofAttribute split isAttribute =>
      refine .ofAttribute ?_ isAttribute.spelled isAttribute.isOpen isAttribute.leads hletters
      simp only [List.append_assoc]

/-- A cursor in the first reference of a line, both ends included, is at a trigger that begins where
the id begins, has the form of the reference, and has as typed what the line has up to the cursor. -/
theorem completionTrigger_of_firstReference {line : List Char} {n column : Nat} {r : Reference}
    (h : firstReference line n = some r) (hstart : r.startColumn ≤ column)
    (hend : column ≤ r.endColumn) :
    ∃ before typed after, line = before ++ (typed ++ after) ∧
      Text.utf16Length before = r.startColumn ∧ Text.utf16Length (before ++ typed) = column ∧
      completionTrigger line n column = some
        { line := n
          column := r.startColumn
          cursor := column
          typed := String.ofList typed
          form := r.form } := by
  obtain ⟨form, lead, id, hfirst, rfl⟩ := firstReference_eq_some_iff.1 h
  obtain ⟨after, hsplit⟩ := hfirst.exists_split
  obtain ⟨start, hreference, -⟩ := hfirst
  have hlength : Text.utf16Length id = id.length := utf16Length_of_letters hreference.letters
  simp only [Occurrence.toReference, Occurrence.startColumn, Occurrence.endColumn, hlength]
    at hstart hend ⊢
  -- Every column of the id is the place between two of its letters.
  let typed := id.take (column - Text.utf16Length lead)
  let more := id.drop (column - Text.utf16Length lead)
  have hid : id = typed ++ more := (List.take_append_drop ..).symm
  have htyped : Text.utf16Length typed = column - Text.utf16Length lead := by
    have hletters : ∀ c ∈ typed, IsIdLetter c :=
      fun c hc => hreference.letters c (List.mem_of_mem_take hc)
    rw [utf16Length_of_letters hletters, List.length_take]
    omega
  have hcursor : Text.utf16Length (lead ++ typed) = column := by
    rw [Text.utf16Length_append]
    omega
  have hline : line = lead ++ typed ++ (more ++ after) := by
    rw [hsplit, hid]
    simp only [List.append_assoc]
  rw [hid] at hreference
  refine ⟨lead, typed, more ++ after, by rw [hline, List.append_assoc], rfl, hcursor, ?_⟩
  have htrigger : completionTrigger (lead ++ typed ++ (more ++ after)) n
      (Text.utf16Length (lead ++ typed)) = some
        { line := n
          column := Text.utf16Length lead
          cursor := Text.utf16Length (lead ++ typed)
          typed := String.ofList typed
          form := form } :=
    completionTrigger_append_eq_some_iff.2 ⟨form, lead, typed, hreference.endsInTrigger, rfl⟩
  rwa [← hline, hcursor] at htrigger

/-- A cursor in the last of two ids of a tag that stands behind a character outside the first
plane. -/
theorem completionTrigger_of_firstReference_grid :
    let line := "😀<Baseline-Status featureId=a FEATUREID='Grid'>".toList
    firstReference line 0 = some ⟨0, 42, 46, "grid", .attribute⟩ ∧
      ∃ before typed after, line = before ++ (typed ++ after) ∧ Text.utf16Length before = 42 ∧
        Text.utf16Length (before ++ typed) = 44 ∧
        completionTrigger line 0 44 = some ⟨0, 42, 44, String.ofList typed, .attribute⟩ := by
  intro line
  have hfirst : firstReference line 0 = some ⟨0, 42, 46, "grid", .attribute⟩ := by
    decide +kernel
  exact ⟨hfirst, completionTrigger_of_firstReference hfirst (by decide) (by decide)⟩

end FeatureRefs
