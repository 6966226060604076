/-!
# Punycode

A text beyond ASCII is written in ASCII letters, digits and minus signs: first its ASCII characters and a
minus sign, if there are any, and then a number for each other character, in the order of their code points. A
number tells how many steps lie between one insertion and the next, where each step goes one place on in the
text, and to the next code point at its end. Numbers have digits in base thirty-six, the lowest first; a digit
below a threshold ends a number, and the thresholds follow the size of the last number.
-/

namespace FeatureRefs.Punycode

/-- The base of the digits. -/
def base : Nat := 36

/-- The first code point that is not written as such. -/
def firstCode : Nat := 0x80

/-- A digit: a letter, and behind the letters a figure. -/
def digit (n : Nat) : Char :=
  if n < 26 then Char.ofNat ('a'.toNat + n) else Char.ofNat ('0'.toNat + (n - 26))

/-- The value of a digit in lower case. -/
def digitValue? (c : Char) : Option Nat :=
  if 'a' ≤ c ∧ c ≤ 'z' then some (c.toNat - 'a'.toNat)
  else if '0' ≤ c ∧ c ≤ '9' then some (c.toNat - '0'.toNat + 26)
  else none

/-- The threshold of the digit at a place, in steps of the base. -/
def threshold (bias place : Nat) : Nat :=
  max 1 (min 26 (place - bias))

theorem threshold_pos (bias place : Nat) : 0 < threshold bias place := by
  unfold threshold
  omega

/-- The bias of a number, scaled down until it is small. -/
def biasFrom (place number : Nat) : Nat :=
  if number ≤ 455 then place + 36 * number / (number + 38) else biasFrom (place + base) (number / 35)
termination_by number
decreasing_by omega

/-- The bias behind a number, once there are `count` characters. -/
def nextBias (isFirst : Bool) (number count : Nat) : Nat :=
  let scaled := if isFirst then number / 700 else number / 2
  biasFrom 0 (scaled + scaled / count)

/-- The bias of the first number. -/
def startBias : Nat := 72

/-! ## Writing -/

/-- The digits of a number from a place on. -/
def numberDigits (bias place number : Nat) : List Char :=
  let t := threshold bias place
  if number < t then [digit number]
  else digit (t + (number - t) % (base - t)) ::
    numberDigits bias (place + base) ((number - t) / (base - t))
termination_by number
decreasing_by
  have hpos := threshold_pos bias place
  have hdiv := Nat.div_le_self (number - threshold bias place) (base - threshold bias place)
  omega

/-- What is known between two insertions. -/
structure Writer where
  /-- The digits so far. -/
  digits : List Char := []
  /-- The steps since the last insertion. -/
  steps : Nat := 0
  bias : Nat := startBias
  /-- The number of characters that are in place. -/
  count : Nat
  isFirst : Bool := true

/-- Goes past a character of the text while the characters of one code point are inserted. -/
def Writer.visit (code : Nat) (w : Writer) (c : Char) : Writer :=
  if c.toNat < code then { w with steps := w.steps + 1 }
  else if c.toNat = code then
    { digits := w.digits ++ numberDigits w.bias base w.steps
      steps := 0
      bias := nextBias w.isFirst w.steps (w.count + 1)
      count := w.count + 1
      isFirst := false }
  else w

/-- Inserts the characters of code points in increasing order; `next` is the code point that is reached. -/
def Writer.insertAll (text : List Char) (next : Nat) (w : Writer) : List Nat → Writer
  | [] => w
  | code :: codes =>
      let w := { w with steps := w.steps + (code - next) * (w.count + 1) }
      let w := text.foldl (visit code) w
      insertAll text (code + 1) { w with steps := w.steps + 1 } codes

/-- A text in ASCII. -/
def encode (text : List Char) : List Char :=
  let plain := text.filter (·.toNat < firstCode)
  let codes := (text.map Char.toNat).filter (firstCode ≤ ·)
  let writer : Writer := { count := plain.length }
  plain ++ (if plain.isEmpty then [] else ['-']) ++
    (writer.insertAll text firstCode (codes.mergeSort).eraseReps).digits

/-! ## Reading -/

/-- Reads the digits of a number from a place on, and gives what follows. -/
def readNumber? (bias place weight number : Nat) : List Char → Option (Nat × List Char)
  | [] => none
  | c :: rest => do
      let d ← digitValue? c
      let t := threshold bias place
      let number := number + d * weight
      if d < t then some (number, rest)
      else readNumber? bias (place + base) (weight * (base - t)) number rest

theorem length_of_readNumber? {bias place weight number : Nat} {text : List Char}
    {result : Nat × List Char} (h : readNumber? bias place weight number text = some result) :
    result.2.length < text.length := by
  induction text generalizing place weight number with
  | nil => simp [readNumber?] at h
  | cons c rest ih =>
      simp only [readNumber?, Option.bind_eq_bind, Option.bind_eq_some_iff] at h
      obtain ⟨d, _, h⟩ := h
      split at h
      case isTrue =>
          cases h
          exact Nat.lt_succ_self _
      case isFalse => exact Nat.lt_succ_of_lt (ih h)

/-- Reads numbers and inserts a character for each. `code` and `place` tell where the last one went. -/
def readFrom? (bias code place : Nat) (isFirst : Bool) (text : List Char) :
    List Char → Option (List Char)
  | [] => some text
  | c :: rest =>
      match h : readNumber? bias base 1 0 (c :: rest) with
      | none => none
      | some (number, after) =>
          let count := text.length + 1
          let code := code + (place + number) / count
          let place := (place + number) % count
          if code.isValidChar then
            readFrom? (nextBias isFirst number count) code (place + 1) false
              (text.insertIdx place (Char.ofNat code)) after
          else
            none
termination_by digits => digits.length
decreasing_by
  exact length_of_readNumber? h

/-- The ASCII characters before the last minus sign, and the digits behind it. A minus sign at the very
beginning separates nothing. -/
def splitPlain (text : List Char) : List Char × List Char :=
  let plain := ((text.reverse.dropWhile (· != '-')).drop 1).reverse
  if plain.isEmpty then ([], text) else (plain, text.drop (plain.length + 1))

/-- The text that is written in ASCII. -/
def decode? (text : List Char) : Option (List Char) :=
  let (plain, digits) := splitPlain text
  if plain.all (·.toNat < firstCode) then readFrom? startBias firstCode 0 true plain digits else none

end FeatureRefs.Punycode
