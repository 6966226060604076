import FeatureRefs.Text.Hex

/-!
# Tokens of JSON

A text is split into brackets, separators, strings, numerals and the three words. A string keeps its
characters with the escapes resolved; where an escape names half of a surrogate pair without the
other half, the token says only that no text results. Control characters may not stand in a string,
and only four characters count as white space between tokens.
-/

namespace FeatureRefs.Json

/-- A numeral as it is written. -/
structure Numeral where
  negative : Bool
  /-- The digits before the point. -/
  whole : List Char
  /-- The digits behind the point. -/
  fraction : List Char
  /-- The sign and the digits of the exponent. -/
  exponent : Option (Bool × List Char)
deriving Repr, DecidableEq

namespace Numeral

/-- Reads digits, at least one, and gives what follows. -/
def digits? (text : List Char) : Option (List Char × List Char) :=
  match text.takeWhile Char.isDigit with
  | [] => none
  | ds => some (ds, text.dropWhile Char.isDigit)

/-- Reads the fraction, if there is one. -/
def fraction? : List Char → Option (List Char × List Char)
  | '.' :: rest => digits? rest
  | rest => some ([], rest)

/-- Reads the exponent that a text consists of, if there is one. -/
def exponent? : List Char → Option (Option (Bool × List Char))
  | [] => some none
  | e :: rest =>
      if e = 'e' ∨ e = 'E' then
        let (negative, rest) :=
          match rest with
          | '-' :: rest => (true, rest)
          | '+' :: rest => (false, rest)
          | rest => (false, rest)
        match digits? rest with
        | some (ds, []) => some (some (negative, ds))
        | _ => none
      else
        none

/-- Reads a word as a numeral. The whole part has no superfluous leading zero. -/
def ofWord? (word : List Char) : Option Numeral := do
  let (negative, rest) :=
    match word with
    | '-' :: rest => (true, rest)
    | rest => (false, rest)
  let (whole, rest) ← digits? rest
  guard (whole.length = 1 ∨ whole.head? ≠ some '0')
  let (fraction, rest) ← fraction? rest
  let exponent ← exponent? rest
  return { negative, whole, fraction, exponent }

/-- The numeral of a natural number. -/
def ofNat (n : Nat) : Numeral where
  negative := false
  whole := Nat.toDigits 10 n
  fraction := []
  exponent := none

/-- The numeral of an integer. -/
def ofInt (n : Int) : Numeral :=
  { ofNat n.natAbs with negative := n < 0 }

/-- The numeral as text. -/
def toText (n : Numeral) : String :=
  let exponent :=
    match n.exponent with
    | none => []
    | some (negative, ds) => 'e' :: (if negative then '-' :: ds else ds)
  String.ofList ((if n.negative then ['-'] else []) ++ n.whole ++
    (if n.fraction.isEmpty then [] else '.' :: n.fraction) ++ exponent)

end Numeral

/-- A token of a JSON text. -/
inductive Token where
  | openArray
  | closeArray
  | openObject
  | closeObject
  | comma
  | colon
  | null
  | bool (b : Bool)
  | number (n : Numeral)
  /-- A string, or `none` where its escapes do not make up text. -/
  | string (text? : Option String)
deriving Repr, DecidableEq

namespace Token

/-- A word that stands outside of strings. -/
def ofWord? (word : List Char) : Option Token :=
  if word = "null".toList then some .null
  else if word = "true".toList then some (.bool true)
  else if word = "false".toList then some (.bool false)
  else (Numeral.ofWord? word).map .number

/-- The token that a single character makes up. -/
def ofMark? : Char → Option Token
  | '[' => some .openArray
  | ']' => some .closeArray
  | '{' => some .openObject
  | '}' => some .closeObject
  | ',' => some .comma
  | ':' => some .colon
  | _ => none

/-- White space between tokens. -/
def isSpace (c : Char) : Bool :=
  c == ' ' || c == '\t' || c == '\n' || c == '\r'

/-- The characters of words. -/
def isWordChar (c : Char) : Bool :=
  c.isAlphanum || c == '-' || c == '+' || c == '.'

/-- The character that a one-letter escape stands for. -/
def escaped? : Char → Option Char
  | '"' => some '"'
  | '\\' => some '\\'
  | '/' => some '/'
  | 'b' => some '\x08'
  | 'f' => some '\x0c'
  | 'n' => some '\n'
  | 'r' => some '\r'
  | 't' => some '\t'
  | _ => none

/-- The text of a string's pieces: each is a character or, from an escape, a UTF-16 code unit. -/
def textOf? : List (Char ⊕ Nat) → Option (List Char)
  | [] => some []
  | .inl c :: rest => (textOf? rest).map (c :: ·)
  | .inr high :: .inr low :: rest =>
      if 0xD800 ≤ high ∧ high < 0xDC00 ∧ 0xDC00 ≤ low ∧ low < 0xE000 then
        let code := 0x10000 + (high - 0xD800) * 0x400 + (low - 0xDC00)
        (textOf? rest).map (Char.ofNat code :: ·)
      else if 0xD800 ≤ high ∧ high < 0xE000 then
        none
      else
        (textOf? (.inr low :: rest)).map (Char.ofNat high :: ·)
  | .inr unit :: rest =>
      if 0xD800 ≤ unit ∧ unit < 0xE000 then none
      else (textOf? rest).map (Char.ofNat unit :: ·)
termination_by pieces => pieces.length

/-- Where the reader stands in a text. Accumulated lists are read backwards. -/
inductive Place where
  /-- Between tokens. -/
  | outside
  /-- In a word. -/
  | word (acc : List Char)
  /-- In a string. -/
  | string (acc : List (Char ⊕ Nat))
  /-- In a string, behind a backslash. -/
  | escape (acc : List (Char ⊕ Nat))
  /-- In a string, within the digits of a code unit. -/
  | unit (acc : List (Char ⊕ Nat)) (value digits : Nat)

/-- What a character outside of words and strings leads to. -/
def stepOutside? (c : Char) : Option (List Token × Place) :=
  if isSpace c then some ([], .outside)
  else if c = '"' then some ([], .string [])
  else if isWordChar c then some ([], .word [c])
  else (ofMark? c).map fun token => ([token], .outside)

/-- What a character adds to the tokens, and where it leads. -/
def step? : Place → Char → Option (List Token × Place)
  | .outside, c => stepOutside? c
  | .word acc, c =>
      if isWordChar c then some ([], .word (c :: acc))
      else do
        let token ← ofWord? acc.reverse
        let (tokens, place) ← stepOutside? c
        return (token :: tokens, place)
  | .string acc, c =>
      if c = '"' then some ([.string ((textOf? acc.reverse).map String.ofList)], .outside)
      else if c = '\\' then some ([], .escape acc)
      else if c.toNat < 0x20 then none
      else some ([], .string (.inl c :: acc))
  | .escape acc, c =>
      if c = 'u' then some ([], .unit acc 0 0)
      else (escaped? c).map fun e => ([], .string (.inl e :: acc))
  | .unit acc value digits, c => do
      let digit ← Text.hexValue? c
      let value := value * 16 + digit
      return ([], if digits = 3 then .string (.inr value :: acc) else .unit acc value (digits + 1))

/-- The tokens of a text from a place on. -/
def scanFrom? : Place → List Char → Option (List Token)
  | .outside, [] => some []
  | .word acc, [] => (ofWord? acc.reverse).map ([·])
  | _, [] => none
  | place, c :: rest => do
      let (tokens, place) ← step? place c
      return tokens ++ (← scanFrom? place rest)

/-- The tokens of a text, if it has no misspelt one. -/
def scan? (text : List Char) : Option (List Token) :=
  scanFrom? .outside text

end Token

end FeatureRefs.Json
