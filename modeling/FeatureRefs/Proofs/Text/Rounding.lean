import Mathlib.Algebra.GroupWithZero.Nat
import FeatureRefs.Proofs.Text.Cursor

/-!
# Columns and bytes of one place

A place between two characters of a line has a column and a byte offset, and each of them leads to the other. An
editor may send any column. One inside a pair of units leads to the place behind the pair, and one past the end of
the line to its end. So a column that was turned into bytes and back is the column of the place that it led to.

The units of a line may be counted in 32 bits by a loop that stops at the column. As long as the length of the
line fits 32 bits, the counter does not wrap. It is NOT claimed that longer lines are read right.
-/

namespace FeatureRefs.Text

/-! ## Places -/

/-- Whether so many bytes end between two characters of a line, or at one of its ends. -/
def IsOffset (line : List Char) (offset : Nat) : Prop :=
  ∃ seen rest, line = seen ++ rest ∧ utf8Length seen = offset

/-- Whether so many units end between two characters of a line, or at one of its ends. -/
def IsColumn (line : List Char) (column : Nat) : Prop :=
  ∃ seen rest, line = seen ++ rest ∧ utf16Length seen = column

/-- Whether a column stands between the two units of a character. -/
def SplitsPair (line : List Char) (column : Nat) : Prop :=
  ∃ first c rest, line = first ++ c :: rest ∧ utf16Size c = 2 ∧ utf16Length first + 1 = column

variable {line : List Char} {column offset : Nat}

theorem isColumn_or_splitsPair_or_lt (line : List Char) (column : Nat) :
    IsColumn line column ∨ SplitsPair line column ∨ utf16Length line < column := by
  obtain ⟨seen, hseen, -⟩ := exists_isBefore line column
  cases hseen with
  | between split length_eq => exact .inl ⟨_, _, split, length_eq⟩
  | insidePair split isPair length_eq => exact .inr (.inl ⟨_, _, _, split, isPair, length_eq⟩)
  | pastEnd length_lt => exact .inr (.inr length_lt)

/-! ## From columns to bytes and back -/

theorem isOffset_byteOffset (line : List Char) (column : Nat) :
    IsOffset line (byteOffset line column) := by
  obtain ⟨seen, hseen, hoffset⟩ := exists_isBefore line column
  obtain ⟨rest, hsplit⟩ := hseen.exists_append
  exact ⟨seen, rest, hsplit, hoffset.symm⟩

theorem byteOffset_mono (line : List Char) {column column' : Nat} (h : column ≤ column') :
    byteOffset line column ≤ byteOffset line column' := by
  induction line generalizing column column' with
  | nil => exact Nat.le_refl 0
  | cons c line ih =>
      by_cases hzero : column = 0
      · rw [byteOffset, if_pos hzero]
        exact Nat.zero_le _
      · have hzero' : column' ≠ 0 := by omega
        rw [byteOffset, byteOffset, if_neg hzero, if_neg hzero']
        exact Nat.add_le_add_left (ih (Nat.sub_le_sub_right h _)) _

theorem byteOffset_utf16Column (h : IsOffset line offset) :
    byteOffset line (utf16Column line offset) = offset := by
  obtain ⟨seen, rest, rfl, rfl⟩ := h
  rw [utf16Column_utf8Length, byteOffset_utf16Length]

theorem utf16Column_byteOffset_of_isColumn (h : IsColumn line column) :
    utf16Column line (byteOffset line column) = column := by
  obtain ⟨seen, rest, rfl, rfl⟩ := h
  rw [byteOffset_utf16Length, utf16Column_utf8Length]

/-- A pair that the column splits is counted in full. -/
theorem utf16Column_byteOffset_of_splitsPair (h : SplitsPair line column) :
    utf16Column line (byteOffset line column) = column + 1 := by
  obtain ⟨first, c, rest, rfl, hpair, rfl⟩ := h
  have hinside : byteOffset (c :: rest) 1 = c.utf8Size := by
    rw [byteOffset, if_neg (by decide), hpair, byteOffset_zero, Nat.add_zero]
  have hbehind := utf16Column_utf8Length (first ++ [c]) rest
  rw [List.append_assoc, List.singleton_append, utf8Length_append, utf16Length_append,
    utf8Length_cons, utf16Length_cons, hpair] at hbehind
  rw [byteOffset_append_add, hinside]
  exact hbehind

theorem utf16Column_byteOffset_of_lt (h : utf16Length line < column) :
    utf16Column line (byteOffset line column) = utf16Length line := by
  obtain ⟨more, rfl⟩ := Nat.exists_eq_add_of_le (Nat.le_of_lt h)
  have hend := byteOffset_append_add line [] more
  have hbehind := utf16Column_utf8Length line []
  rw [List.append_nil] at hend hbehind
  rw [hend]
  exact hbehind

/-! ## Counting in 32 bits -/

/-- The counter of units behind one more character, unless it wraps. -/
def advance? (units : UInt32) (c : Char) : Option UInt32 :=
  if units.toNat + utf16Size c < UInt32.size then some (units + UInt32.ofNat (utf16Size c)) else none

/-- Looks for a column from a place on, behind so many units and bytes. There is no answer if the counter of
units wraps before. -/
def seek? (column : UInt32) : List Char → UInt32 → Nat → Option Nat
  | [], _, bytes => some bytes
  | c :: rest, units, bytes =>
      if column ≤ units then some bytes
      else (advance? units c).bind fun next => seek? column rest next (bytes + c.utf8Size)

theorem advance?_eq_some {units : UInt32} {c : Char}
    (h : units.toNat + utf16Size c < UInt32.size) :
    ∃ next, advance? units c = some next ∧ next.toNat = units.toNat + utf16Size c := by
  refine ⟨_, if_pos h, ?_⟩
  have hsize : utf16Size c < UInt32.size := by omega
  rw [UInt32.toNat_add, UInt32.toNat_ofNat_of_lt' hsize, Nat.mod_eq_of_lt h]

/-- The loop finds the place that the rest of the column leads to. -/
theorem seek?_eq_some {column units : UInt32} {rest : List Char} {bytes : Nat}
    (h : units.toNat + utf16Length rest < UInt32.size) :
    seek? column rest units bytes =
      some (bytes + byteOffset rest (column.toNat - units.toNat)) := by
  -- The units that were counted and those that are left fit together, so every step finds room for a character.
  induction rest generalizing units bytes with
  | nil => rfl
  | cons c rest ih =>
      rw [utf16Length_cons] at h
      by_cases hreached : column ≤ units
      · have hzero : column.toNat - units.toNat = 0 :=
          Nat.sub_eq_zero_of_le (UInt32.le_iff_toNat_le.1 hreached)
        rw [seek?, if_pos hreached, byteOffset, if_pos hzero, Nat.add_zero]
      · obtain ⟨next, hnext, hunits⟩ := @advance?_eq_some units c (by omega)
        have hne : column.toNat - units.toNat ≠ 0 := by
          rw [UInt32.le_iff_toNat_le] at hreached
          omega
        rw [seek?, if_neg hreached, hnext, Option.bind_some, ih (by omega), byteOffset,
          if_neg hne, hunits, Nat.sub_sub, Nat.add_assoc]

theorem utf16Column_le (line : List Char) (offset : Nat) :
    utf16Column line offset ≤ utf16Length line := by
  induction line generalizing offset with
  | nil => exact Nat.le_refl 0
  | cons c line ih =>
      rw [utf16Column, takeBytes]
      split
      · exact Nat.add_le_add_left (ih _) _
      · exact Nat.zero_le _

/-- Every column leads to a place of the line, and a greater one to none before it. The column of the place that a
byte offset stands for leads back there. The column of the place that a column leads to is the same if it was one
of a place, the next one if it split a pair, and the length of the line if it was past the end. In a line of
less than `2 ^ 32 - 1` units, no count of 32 bits wraps on the way there or back. -/
theorem byteOffset_rounds (line : List Char) :
    (∀ column, IsOffset line (byteOffset line column)) ∧
    (∀ column column', column ≤ column' → byteOffset line column ≤ byteOffset line column') ∧
    (∀ offset, IsOffset line offset → byteOffset line (utf16Column line offset) = offset) ∧
    (∀ column,
      (IsColumn line column → utf16Column line (byteOffset line column) = column) ∧
      (SplitsPair line column → utf16Column line (byteOffset line column) = column + 1) ∧
      (utf16Length line < column → utf16Column line (byteOffset line column) = utf16Length line) ∧
      (IsColumn line column ∨ SplitsPair line column ∨ utf16Length line < column)) ∧
    (utf16Length line < 2 ^ 32 - 1 →
      (∀ column : UInt32, seek? column line 0 0 = some (byteOffset line column.toNat)) ∧
      ∀ offset, (UInt32.ofNat (utf16Column line offset)).toNat = utf16Column line offset) := by
  refine ⟨isOffset_byteOffset line, fun _ _ => byteOffset_mono line,
    fun _ => byteOffset_utf16Column, fun column => ?_, fun hlength => ⟨fun column => ?_, ?_⟩⟩
  · exact ⟨utf16Column_byteOffset_of_isColumn, utf16Column_byteOffset_of_splitsPair,
      utf16Column_byteOffset_of_lt, isColumn_or_splitsPair_or_lt line column⟩
  · have hfits : (0 : UInt32).toNat + utf16Length line < UInt32.size := by
      rw [UInt32.toNat_zero, UInt32.size]
      omega
    rw [seek?_eq_some hfits, UInt32.toNat_zero, Nat.zero_add, Nat.sub_zero]
  · intro offset
    have hle := utf16Column_le line offset
    exact UInt32.toNat_ofNat_of_lt' (by rw [UInt32.size]; omega)

/-- A column in the middle of a pair, and one past the end. -/
theorem byteOffset_rounds_pair :
    let line := ['a', '😀', 'b']
    IsOffset line 5 ∧ IsColumn line 3 ∧ SplitsPair line 2 ∧ utf16Length line < 9 ∧
      utf16Length line < 2 ^ 32 - 1 ∧ byteOffset line 2 ≤ byteOffset line 3 ∧
      byteOffset line (utf16Column line 5) = 5 ∧ utf16Column line (byteOffset line 3) = 3 ∧
      utf16Column line (byteOffset line 2) = 3 ∧ utf16Column line (byteOffset line 9) = 4 ∧
      seek? 2 line 0 0 = some (byteOffset line 2) := by
  intro line
  have hoffset : IsOffset line 5 := ⟨['a', '😀'], ['b'], rfl, by decide⟩
  have hcolumn : IsColumn line 3 := ⟨['a', '😀'], ['b'], rfl, by decide⟩
  have hpair : SplitsPair line 2 := ⟨['a'], '😀', ['b'], rfl, by decide, by decide⟩
  have hpast : utf16Length line < 9 := by decide
  have hlength : utf16Length line < 2 ^ 32 - 1 := by decide
  obtain ⟨-, hmono, hback, hrounds, hcounted⟩ := byteOffset_rounds line
  exact ⟨hoffset, hcolumn, hpair, hpast, hlength, hmono 2 3 (by decide), hback 5 hoffset,
    (hrounds 3).1 hcolumn, (hrounds 2).2.1 hpair, (hrounds 9).2.2.1 hpast, (hcounted hlength).1 2⟩

end FeatureRefs.Text
