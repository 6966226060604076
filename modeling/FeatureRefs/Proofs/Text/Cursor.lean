import FeatureRefs.Text.Units

/-!
# What stands before a cursor

A cursor is a column, and an editor may send any number. It stands between two characters, or inside a
character of two units, or past the end of the line. In each case the line is cut between characters: a
pair that the cursor splits is on the side before it, and past the end there is all of the line.
-/

namespace FeatureRefs.Text

/-- What of a line stands before a cursor at a column. -/
inductive IsBefore (line : List Char) (column : Nat) : List Char → Prop where
  | between {seen rest : List Char} (split : line = seen ++ rest)
      (length_eq : utf16Length seen = column) : IsBefore line column seen
  | insidePair {first rest : List Char} {c : Char} (split : line = first ++ c :: rest)
      (isPair : utf16Size c = 2) (length_eq : utf16Length first + 1 = column) :
      IsBefore line column (first ++ [c])
  | pastEnd (length_lt : utf16Length line < column) : IsBefore line column line

theorem utf16Size_eq_one_or_two (c : Char) : utf16Size c = 1 ∨ utf16Size c = 2 := by
  unfold utf16Size
  split
  · exact .inl rfl
  · exact .inr rfl

theorem IsBefore.cons {line seen : List Char} {column : Nat} (h : IsBefore line column seen)
    (c : Char) : IsBefore (c :: line) (column + utf16Size c) (c :: seen) := by
  cases h with
  | between split length_eq =>
      refine .between (by rw [split]; rfl) ?_
      rw [utf16Length_cons, length_eq, Nat.add_comm]
  | @insidePair first rest d split isPair length_eq =>
      have hlength : utf16Length (c :: first) + 1 = column + utf16Size c := by
        rw [utf16Length_cons]
        omega
      exact @insidePair _ _ (c :: first) rest d (by rw [split]; rfl) isPair hlength
  | pastEnd length_lt =>
      refine .pastEnd ?_
      rw [utf16Length_cons]
      omega

/-- A line is cut behind what stands before the cursor. -/
theorem exists_isBefore (line : List Char) (column : Nat) :
    ∃ seen, IsBefore line column seen ∧ byteOffset line column = utf8Length seen := by
  induction line generalizing column with
  | nil =>
      refine ⟨[], ?_, rfl⟩
      by_cases hzero : column = 0
      · exact .between rfl hzero.symm
      · exact .pastEnd (Nat.pos_of_ne_zero hzero)
  | cons c line ih =>
      by_cases hzero : column = 0
      · exact ⟨[], .between rfl hzero.symm, by rw [byteOffset, if_pos hzero]; rfl⟩
      rw [byteOffset, if_neg hzero]
      by_cases hle : utf16Size c ≤ column
      · obtain ⟨seen, hseen, hoffset⟩ := ih (column - utf16Size c)
        have hcons := hseen.cons c
        rw [Nat.sub_add_cancel hle] at hcons
        exact ⟨c :: seen, hcons, by rw [hoffset, utf8Length_cons]⟩
      · -- The cursor is behind the first unit of a pair.
        have hpair : utf16Size c = 2 ∧ column = 1 := by
          have hsize := utf16Size_eq_one_or_two c
          omega
        have hnone : byteOffset line (column - utf16Size c) = 0 := by
          rw [Nat.sub_eq_zero_of_le (by omega), byteOffset_zero]
        refine ⟨[c], @IsBefore.insidePair _ _ [] line c rfl hpair.1 hpair.2.symm, ?_⟩
        rw [hnone]
        rfl

theorem IsBefore.exists_append {line seen : List Char} {column : Nat}
    (h : IsBefore line column seen) : ∃ rest, line = seen ++ rest := by
  cases h with
  | between split length_eq => exact ⟨_, split⟩
  | insidePair split isPair length_eq => exact ⟨_, by rw [split, List.append_assoc]; rfl⟩
  | pastEnd length_lt => exact ⟨[], (List.append_nil _).symm⟩

/-- The cursor is counted up to the end of the line, unless it splits a pair. -/
theorem IsBefore.utf16Length_eq_min {line seen : List Char} {column : Nat}
    (h : IsBefore line column seen) (hlast : ∀ c, seen.getLast? = some c → utf16Size c = 1) :
    utf16Length seen = min column (utf16Length line) := by
  cases h with
  | between split length_eq =>
      rw [split, utf16Length_append]
      omega
  | @insidePair first rest c split isPair length_eq =>
      have hone := hlast c (List.getLast?_concat ..)
      omega
  | pastEnd length_lt => omega

end FeatureRefs.Text
