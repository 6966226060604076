/-!
# Columns and bytes

A line is a list of characters. Editors count its columns in UTF-16 code units, of which a character
has one or two, and files count bytes of UTF-8. The two measures meet at character boundaries:
`byteOffset` rounds a column up to the next boundary, and `utf16Column` gives the column of a
boundary back.
-/

namespace FeatureRefs.Text

/-- The number of UTF-16 code units of a character. -/
def utf16Size (c : Char) : Nat :=
  if c.toNat < 0x10000 then 1 else 2

/-- The length in UTF-16 code units. -/
def utf16Length : List Char → Nat
  | [] => 0
  | c :: rest => utf16Size c + utf16Length rest

/-- The length in bytes of UTF-8. -/
def utf8Length : List Char → Nat
  | [] => 0
  | c :: rest => c.utf8Size + utf8Length rest

/-- The byte offset of a column. A column inside a surrogate pair counts as the end of the pair, and
a column past the end as the end of the line. -/
def byteOffset : List Char → Nat → Nat
  | [], _ => 0
  | c :: rest, column =>
      if column = 0 then 0 else c.utf8Size + byteOffset rest (column - utf16Size c)

/-- The characters that lie wholly within the first `offset` bytes. -/
def takeBytes : Nat → List Char → List Char
  | _, [] => []
  | offset, c :: rest =>
      if c.utf8Size ≤ offset then c :: takeBytes (offset - c.utf8Size) rest else []

/-- The column of a byte offset; an offset past the end counts as the end of the line. -/
def utf16Column (line : List Char) (offset : Nat) : Nat :=
  utf16Length (takeBytes offset line)

@[simp] theorem utf16Length_nil : utf16Length [] = 0 := rfl

@[simp] theorem utf16Length_cons (c : Char) (rest : List Char) :
    utf16Length (c :: rest) = utf16Size c + utf16Length rest := rfl

@[simp] theorem utf8Length_nil : utf8Length [] = 0 := rfl

@[simp] theorem utf8Length_cons (c : Char) (rest : List Char) :
    utf8Length (c :: rest) = c.utf8Size + utf8Length rest := rfl

theorem utf16Size_pos (c : Char) : 0 < utf16Size c := by
  unfold utf16Size
  split <;> omega

@[simp] theorem utf16Length_append (s t : List Char) :
    utf16Length (s ++ t) = utf16Length s + utf16Length t := by
  induction s with
  | nil => simp
  | cons c rest ih => simp [ih, Nat.add_assoc]

@[simp] theorem utf8Length_append (s t : List Char) :
    utf8Length (s ++ t) = utf8Length s + utf8Length t := by
  induction s with
  | nil => simp
  | cons c rest ih => simp [ih, Nat.add_assoc]

theorem utf16Length_eq_zero_iff {s : List Char} : utf16Length s = 0 ↔ s = [] := by
  cases s with
  | nil => simp
  | cons c rest =>
      have hpos := utf16Size_pos c
      simp
      omega

/-- A column of a line stands behind one beginning of it only. -/
theorem eq_of_utf16Length_eq {s t rest rest' : List Char} (h : s ++ rest = t ++ rest')
    (hlength : utf16Length s = utf16Length t) : s = t := by
  rcases List.append_eq_append_iff.1 h with ⟨more, rfl, -⟩ | ⟨more, rfl, -⟩
  · have hmore : utf16Length more = 0 := by
      rw [utf16Length_append] at hlength
      omega
    rw [utf16Length_eq_zero_iff.1 hmore, List.append_nil]
  · have hmore : utf16Length more = 0 := by
      rw [utf16Length_append] at hlength
      omega
    rw [utf16Length_eq_zero_iff.1 hmore, List.append_nil]

/-- The bytes of a beginning of a line hold exactly that beginning. -/
theorem takeBytes_utf8Length (line rest : List Char) :
    takeBytes (utf8Length line) (line ++ rest) = line := by
  induction line with
  | nil =>
      cases rest with
      | nil => rfl
      | cons c rest =>
          have hpos := c.utf8Size_pos
          simp [takeBytes]
          omega
  | cons c line ih => simp [takeBytes, ih]

/-- The column behind a beginning of a line is the length of that beginning. -/
theorem utf16Column_utf8Length (line rest : List Char) :
    utf16Column (line ++ rest) (utf8Length line) = utf16Length line := by
  rw [utf16Column, takeBytes_utf8Length]

theorem byteOffset_zero (line : List Char) : byteOffset line 0 = 0 := by
  cases line with
  | nil => rfl
  | cons c line => rw [byteOffset, if_pos rfl]

/-- A beginning of a line counts in full, and the column goes on behind it. -/
theorem byteOffset_append_add (line rest : List Char) (column : Nat) :
    byteOffset (line ++ rest) (utf16Length line + column) =
      utf8Length line + byteOffset rest column := by
  induction line with
  | nil => simp
  | cons c line ih =>
      have hpos := utf16Size_pos c
      have hne : utf16Size c + utf16Length line + column ≠ 0 := by omega
      rw [List.cons_append, utf16Length_cons, byteOffset, if_neg hne, Nat.add_assoc,
        Nat.add_sub_cancel_left, ih, utf8Length_cons, Nat.add_assoc]

/-- The byte offset of that column leads back. -/
theorem byteOffset_utf16Length (line rest : List Char) :
    byteOffset (line ++ rest) (utf16Length line) = utf8Length line := by
  have hline := byteOffset_append_add line rest 0
  rwa [byteOffset_zero] at hline

end FeatureRefs.Text
