/-!
# Reading YAML characters

A cursor stands in a text and knows its line and column. Line breaks are the line feed, the carriage
return, both together, and three separators beyond ASCII.
-/

namespace FeatureRefs.Yaml

/-- Whether a character may occur in a YAML text at all. -/
def isAllowed (c : Char) : Bool :=
  let code := c.toNat
  code == 0x09 || code == 0x0A || code == 0x0D || (0x20 ≤ code && code ≤ 0x7E) || code == 0x85 ||
    (0xA0 ≤ code && code ≤ 0xFFFD) || 0x10000 ≤ code

/-- Whether a character is a blank or a tab. -/
def isSpace (c : Char) : Bool :=
  c == ' ' || c == '\t'

/-- Whether a character is a line break. -/
def isBreak (c : Char) : Bool :=
  c == '\n' || c == '\r' || c == '\u0085' || c == '\u2028' || c == '\u2029'

/-- Whether a character is a blank, a tab or a line break. -/
def isGap (c : Char) : Bool :=
  isSpace c || isBreak c

/-- Whether a blank, a tab, a line break or the end of the text comes. -/
def gapOrEnd : List Char → Bool
  | [] => true
  | c :: _ => isGap c

/-- Whether a line break or the end of the text comes. -/
def breakOrEnd : List Char → Bool
  | [] => true
  | c :: _ => isBreak c

/-- The characters of names: letters and digits of ASCII, the hyphen and the underscore. -/
def isNameChar (c : Char) : Bool :=
  c.isAlphanum || c == '-' || c == '_'

/-- Line breaks as they are kept in a scalar: two separators stay, the others are line feeds. -/
def normalBreaks : List Char → List Char
  | [] => []
  | '\r' :: '\n' :: rest => '\n' :: normalBreaks rest
  | c :: rest => (if c == '\r' || c == '\u0085' then '\n' else c) :: normalBreaks rest

/-- A place in a text. -/
structure Cursor where
  rest : List Char
  /-- The number of bytes before the place. -/
  index : Nat := 0
  line : Nat := 0
  column : Nat := 0

namespace Cursor

/-- The place behind the next character. A carriage return in front of a line feed does not end the
line yet. -/
def next (c : Cursor) : Cursor :=
  match c.rest with
  | [] => c
  | '\r' :: '\n' :: rest => ⟨'\n' :: rest, c.index + 1, c.line, c.column + 1⟩
  | char :: rest =>
      if isBreak char then ⟨rest, c.index + char.utf8Size, c.line + 1, 0⟩
      else ⟨rest, c.index + char.utf8Size, c.line, c.column + 1⟩

/-- The place `n` characters further on. -/
def advance : Nat → Cursor → Cursor
  | 0, c => c
  | n + 1, c => advance n c.next

/-- The characters that satisfy `p`, and the place behind them. -/
def takeWhile (p : Char → Bool) (c : Cursor) : List Char × Cursor :=
  let taken := c.rest.takeWhile p
  (taken, c.advance taken.length)

/-- The place behind the characters that satisfy `p`. -/
def skipWhile (p : Char → Bool) (c : Cursor) : Cursor :=
  (c.takeWhile p).2

/-- The place behind a byte order mark at the beginning of a line. The mark takes up a column. -/
def skipByteOrderMark (c : Cursor) : Cursor :=
  if c.column == 0 && c.rest.head? == some '\ufeff' then c.next else c

/-- The place behind a line break, if there is one right here. -/
def skipBreak (c : Cursor) : Cursor :=
  match c.rest with
  | '\r' :: '\n' :: _ => c.advance 2
  | char :: _ => if isBreak char then c.next else c
  | [] => c

/-- The place behind blanks and a comment, if there is one. -/
def skipComment (c : Cursor) : Cursor :=
  let c := c.skipWhile isSpace
  if c.rest.head? == some '#' then c.skipWhile (!isBreak ·) else c

/-- Whether three equal marks stand at the beginning of a line and on their own. -/
def atMark (mark : Char) (c : Cursor) : Bool :=
  c.column == 0 &&
    match c.rest with
    | a :: b :: d :: rest => a == mark && b == mark && d == mark && gapOrEnd rest
    | _ => false

/-- Whether a document begins or ends right here. -/
def atDocumentMark (c : Cursor) : Bool :=
  c.atMark '-' || c.atMark '.'

end Cursor

end FeatureRefs.Yaml
