import FeatureRefs.Proofs.Text.Columns
import FeatureRefs.Proofs.Text.Cursor
import FeatureRefs.Proofs.Trigger.Agreement

/-!
# Where triggers are

A trigger is at the cursor: what is typed stands between its column and its cursor, and the cursor is the
column that was asked for, or the end of the line if it was past that. A cursor that splits a pair of units
is moved behind the pair, but then there is no trigger, for what a line ends in at a trigger takes one unit
for each character. The two grammars of triggers never both match, so it does not matter which of them is
tried first.

Columns are NOT bounded here. None that is told of a trigger is greater than the length of the line, so they
fit whatever number that length fits.
-/

namespace FeatureRefs

/-- The marks in front of an id take one column each. -/
theorem utf16Size_of_foldCase_mem {c : Char} (h : foldCase c ∈ ['/', '=', '\'', '"']) :
    Text.utf16Size c = 1 := by
  have hsmall : c.toNat < 0x10000 := by
    simp only [List.mem_cons, List.not_mem_nil, or_false, ← Char.toNat_inj, toNat_foldCase,
      toNat_toLower, Char.reduceToNat] at h
    generalize c.toNat = m at h ⊢
    split_ifs at h <;> omega
  rw [Text.utf16Size, if_pos hsmall]

/-- The last character of a text that ends in a trigger takes one column. -/
theorem EndsInTrigger.utf16Size_last {text lead typed : List Char} {form : ReferenceForm}
    (h : EndsInTrigger text form lead typed) {c : Char} (hc : text.getLast? = some c) :
    Text.utf16Size c = 1 := by
  rw [h.split, List.getLast?_append] at hc
  cases hlast : typed.getLast? with
  | some d =>
      rw [hlast, Option.some_or] at hc
      obtain rfl := Option.some.inj hc
      exact (h.letters d (List.mem_of_getLast? hlast)).utf16Size_eq
  | none =>
      -- Nothing is typed, so the text ends with a mark.
      rw [hlast, Option.none_or] at hc
      obtain ⟨init, d, rfl, hmark, -⟩ := h.exists_last
      rw [List.getLast?_concat] at hc
      obtain rfl := Option.some.inj hc
      exact utf16Size_of_foldCase_mem hmark

/-- No text ends in triggers of both forms. -/
theorem hotPhraseTrigger?_or_attributeTrigger?_eq_none (text : List Char) :
    hotPhraseTrigger? text = none ∨ attributeTrigger? text = none := by
  cases hphrase : hotPhraseTrigger? text with
  | none => exact .inl rfl
  | some phrase =>
      cases htag : attributeTrigger? text with
      | none => exact .inr rfl
      | some tag =>
          obtain ⟨hform, -, -⟩ := (endsInTrigger_of_hotPhraseTrigger? hphrase).unique
            (endsInTrigger_of_attributeTrigger? htag)
          contradiction

/-- At any cursor a line is cut between two characters, and at most one grammar of triggers matches what
stands before. A trigger that is found there has its cursor at the column, or at the end of the line if that
is before, and what is typed is the text of the line between its column and its cursor. -/
theorem completionTrigger_placed (line : List Char) (n column : Nat) :
    ∃ seen rest, line = seen ++ rest ∧ Text.byteOffset line column = Text.utf8Length seen ∧
      Text.takeBytes (Text.byteOffset line column) line = seen ∧
      (hotPhraseTrigger? seen = none ∨ attributeTrigger? seen = none) ∧
      ∀ t, completionTrigger line n column = some t →
        t.line = n ∧ t.cursor = min column (Text.utf16Length line) ∧
          t.column + Text.utf16Length t.typed.toList = t.cursor ∧
          Text.between? line t.column t.cursor = some t.typed.toList := by
  obtain ⟨seen, hseen, hoffset⟩ := Text.exists_isBefore line column
  obtain ⟨rest, rfl⟩ := hseen.exists_append
  refine ⟨seen, rest, rfl, hoffset, ?_, hotPhraseTrigger?_or_attributeTrigger?_eq_none seen, ?_⟩
  · rw [hoffset, Text.takeBytes_utf8Length]
  · intro t ht
    -- The cursor counts as the column behind what stands before it.
    have hsame : completionTrigger (seen ++ rest) n column =
        completionTrigger (seen ++ rest) n (Text.utf16Length seen) := by
      simp only [completionTrigger, hoffset, Text.byteOffset_utf16Length]
    rw [hsame] at ht
    obtain ⟨form, lead, typed, hends, rfl⟩ := completionTrigger_append_eq_some_iff.1 ht
    have hlength : Text.utf16Length lead + Text.utf16Length typed = Text.utf16Length seen := by
      rw [hends.split, Text.utf16Length_append]
    refine ⟨rfl, hseen.utf16Length_eq_min fun c hc => hends.utf16Size_last hc, ?_, ?_⟩
    · rw [String.toList_ofList]
      exact hlength
    · rw [String.toList_ofList]
      refine (Text.between?_eq_some_iff (hlength ▸ Nat.le_add_right ..)).2
        ⟨lead, rest, ?_, rfl, hlength⟩
      rw [hends.split, List.append_assoc]

/-- A cursor far past the end of a line with a pair in it. Inside the pair there is no trigger. -/
theorem completionTrigger_placed_past_end :
    let line := "baseline/😀<Baseline-Status featureId=\"Gr".toList
    let t : Trigger := ⟨0, 39, 41, "Gr", .attribute⟩
    completionTrigger line 0 4294967295 = some t ∧ completionTrigger line 0 10 = none ∧
      t.cursor = min 4294967295 (Text.utf16Length line) ∧
      t.column + Text.utf16Length t.typed.toList = t.cursor ∧
      Text.between? line t.column t.cursor = some t.typed.toList := by
  intro line t
  have ht : completionTrigger line 0 4294967295 = some t := by
    decide +kernel
  obtain ⟨-, -, -, -, -, -, hplaced⟩ := completionTrigger_placed line 0 4294967295
  obtain ⟨-, hcursor, hcolumn, htyped⟩ := hplaced t ht
  exact ⟨ht, by decide +kernel, hcursor, hcolumn, htyped⟩

end FeatureRefs
