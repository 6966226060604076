import FeatureRefs.Text.Hex
import FeatureRefs.Text.Split

/-!
# Network addresses

The numeric addresses of hosts. The shorter kind is written as four numbers with dots, and may be read from
fewer numbers, of which the last one fills the rest, in base eight, ten or sixteen. The longer kind is written
as eight numbers in base sixteen with colons, where two colons stand for a stretch of zeros; its last two
numbers may be given as an address of the shorter kind.
-/

namespace FeatureRefs

/-! ## Four bytes -/

/-- An address of four bytes. -/
structure AddressV4 where
  bytes : List Nat
  length_bytes : bytes.length = 4
deriving Repr, DecidableEq

namespace AddressV4

/-- The number that digits of a base stand for. -/
def numberInBase? (base : Nat) (digits : List Char) : Option Nat := do
  let values ← digits.mapM fun c => (Text.hexValue? c).filter (· < base)
  return values.foldl (fun n d => base * n + d) 0

/-- Reads a number, whose beginning tells its base. -/
def number? : List Char → Option Nat
  | [] => none
  | '0' :: c :: digits =>
      if c == 'x' || c == 'X' then numberInBase? 16 digits else numberInBase? 8 (c :: digits)
  | digits => numberInBase? 10 digits

/-- The parts of a name between its dots. A dot at the end does not count. -/
def parts (name : List Char) : List (List Char) :=
  match (Text.split (· == '.') name).reverse with
  | [] :: last :: others => (last :: others).reverse
  | others => others.reverse

/-- Whether a name is meant as an address: its last part is a number. -/
def isMeant (name : List Char) : Bool :=
  (parts name).getLast?.any fun part =>
    !part.isEmpty && part.all Char.isDigit || (number? part).isSome

/-- A number as bytes, if it fits into so many. -/
def bytesOf? : Nat → Nat → Option (List Nat)
  | 0, n => if n = 0 then some [] else none
  | count + 1, n => (bytesOf? count (n / 256)).map (· ++ [n % 256])

/-- Reads an address. All numbers but the last one are bytes, and the last one fills the rest. -/
def parse? (name : List Char) : Option AddressV4 := do
  let numbers ← (parts name).mapM number?
  let first := numbers.dropLast
  guard (first.length < 4 ∧ first.all (· < 256))
  let bytes := first ++ (← bytesOf? (4 - first.length) (← numbers.getLast?))
  if h : bytes.length = 4 then some ⟨bytes, h⟩ else none

/-- An address as four numbers. -/
def text (address : AddressV4) : String :=
  ".".intercalate (address.bytes.map toString)

end AddressV4

/-! ## Eight numbers -/

/-- An address of eight numbers of sixteen bits. -/
structure AddressV6 where
  pieces : List Nat
  length_pieces : pieces.length = 8
deriving Repr, DecidableEq

namespace AddressV6

/-- Reads one to four hexadecimal digits. -/
def piece? (digits : List Char) : Option Nat :=
  if !digits.isEmpty && digits.length ≤ 4 && digits.all (fun c => (Text.hexValue? c).isSome) then
    some (Text.hexNumber digits)
  else
    none

/-- Reads a byte in base ten, without leading zeros. -/
def byte? (digits : List Char) : Option Nat := do
  guard (!digits.isEmpty && (digits.length == 1 || digits.head? != some '0'))
  let n ← AddressV4.numberInBase? 10 digits
  guard (n < 256)
  return n

/-- Reads the last group of an address, which may be four bytes. -/
def lastPieces? (group : List Char) : Option (List Nat) :=
  match (Text.split (· == '.') group).mapM byte? with
  | some [a, b, c, d] => some [256 * a + b, 256 * c + d]
  | _ => (piece? group).map ([·])

/-- The groups between colons. -/
def groups (text : List Char) : List (List Char) :=
  if text.isEmpty then [] else Text.split (· == ':') text

/-- Reads groups up to the end of an address. -/
def lastGroups? (groups : List (List Char)) : Option (List Nat) := do
  let pieces ← groups.dropLast.mapM piece?
  match groups.getLast? with
  | none => some []
  | some last => return pieces ++ (← lastPieces? last)

/-- A text cut at its first two colons in a row. -/
def cutAtGap : List Char → List Char × Option (List Char)
  | [] => ([], none)
  | ':' :: ':' :: rest => ([], some rest)
  | c :: rest =>
      let (before, after?) := cutAtGap rest
      (c :: before, after?)

/-- The address with a gap of zeros between two lists of numbers; the gap is at least one number. -/
def fillGap? (front back : List Nat) : Option AddressV6 :=
  if h : front.length + back.length < 8 then
    some ⟨front ++ List.replicate (8 - (front.length + back.length)) 0 ++ back, by simp; omega⟩
  else
    none

/-- Reads an address. -/
def parse? (text : List Char) : Option AddressV6 :=
  match cutAtGap text with
  | (whole, none) => do
      let pieces ← lastGroups? (groups whole)
      if h : pieces.length = 8 then some ⟨pieces, h⟩ else none
  | (before, some after) => do
      fillGap? (← (groups before).mapM piece?) (← lastGroups? (groups after))

/-- The start and the length of the first longest stretch of zeros. -/
def longestZeros : List Nat → Nat × Nat
  | [] => (0, 0)
  | piece :: rest =>
      let here := ((piece :: rest).takeWhile (· == 0)).length
      let (start, length) := longestZeros rest
      if length ≤ here then (0, here) else (start + 1, length)

/-- Numbers in base sixteen with colons between them. -/
def joined (pieces : List Nat) : String :=
  ":".intercalate (pieces.map fun piece => String.ofList (Text.hexDigits piece))

/-- An address with the first longest stretch of zeros left out, if that is more than one. -/
def text (address : AddressV6) : String :=
  let (start, length) := longestZeros address.pieces
  if length < 2 then joined address.pieces
  else joined (address.pieces.take start) ++ "::" ++ joined (address.pieces.drop (start + length))

end AddressV6

end FeatureRefs
