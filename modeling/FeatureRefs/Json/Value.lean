import FeatureRefs.Json.Document

/-!
# JSON values

A value is a document that has been read whole: its strings are text, its numerals stand for finite
numbers, and its nesting is limited.
-/

namespace FeatureRefs.Json

/-- A JSON value. Members of an object keep their order. -/
inductive Value where
  | null
  | bool (b : Bool)
  | number (n : Numeral)
  | string (s : String)
  | array (items : List Value)
  | object (members : List (String × Value))
deriving Repr

/-- The number of a list of decimal digits. -/
def Numeral.natOfDigits (digits : List Char) : Nat :=
  digits.foldl (fun n c => 10 * n + (c.toNat - '0'.toNat)) 0

/-- The leading digits of a numeral that fit into 64 bits, as a number, and how many are left over. -/
def Numeral.significand : List Char → Nat → Nat × Nat
  | [], n => (n, 0)
  | c :: digits, n =>
      let next := 10 * n + (c.toNat - '0'.toNat)
      if next < 2 ^ 64 then significand digits next else (n, digits.length + 1)

/-- The power of ten by which the significand is to be multiplied. -/
def Numeral.scale (n : Numeral) : Int :=
  let leftover := (significand (n.whole ++ n.fraction) 0).2
  let exponent : Int :=
    match n.exponent with
    | none => 0
    | some (negative, ds) => if negative then -(natOfDigits ds : Int) else natOfDigits ds
  exponent - n.fraction.length + leftover

/-- Whether a numeral stands for a finite number of double precision: the significand is multiplied
by a power of ten of at most 308. -/
def Numeral.isFinite (n : Numeral) : Bool :=
  -- Without a power of ten above one the significand alone bounds the number.
  let digits := (significand (n.whole ++ n.fraction) 0).1
  if n.scale ≤ 0 || digits == 0 then true
  else if 308 < n.scale then false
  else !((UInt64.ofNat digits).toFloat * Float.ofScientific 1 false n.scale.toNat).isInf

mutual

/-- Reads a document whole. `room` is how many arrays and objects may be nested. -/
def Document.toValue? (room : Nat) : Document → Option Value
  | .null => some .null
  | .bool b => some (.bool b)
  | .number n => if n.isFinite then some (.number n) else none
  | .string text? => text?.map .string
  | .array items =>
      match room with
      | 0 => none
      | room + 1 => (itemsToValues? room items).map .array
  | .object members =>
      match room with
      | 0 => none
      | room + 1 => (membersToValues? room members).map .object

/-- Reads the items of an array. -/
def Document.itemsToValues? (room : Nat) : List Document → Option (List Value)
  | [] => some []
  | item :: items => do
      let value ← item.toValue? room
      let values ← itemsToValues? room items
      return value :: values

/-- Reads the members of an object. -/
def Document.membersToValues? (room : Nat) :
    List (Option String × Document) → Option (List (String × Value))
  | [] => some []
  | (key, member) :: members => do
      let key ← key
      let value ← member.toValue? room
      let values ← membersToValues? room members
      return (key, value) :: values

end

namespace Value

/-- The value of a natural number. -/
def ofNat (n : Nat) : Value :=
  .number (.ofNat n)

/-- The value of an integer. -/
def ofInt (n : Int) : Value :=
  .number (.ofInt n)

/-- The value of what may be missing. -/
def ofOption {α : Type} (f : α → Value) : Option α → Value
  | none => .null
  | some a => f a

/-- The text that a value is, if it is one. -/
def text? : Value → Option String
  | .string s => some s
  | _ => none

/-- The integer that a value is, if it is written as one and fits into 64 bits. A zero with a sign is no
integer. -/
def int? : Value → Option Int
  | .number n =>
      let size : Int := Numeral.natOfDigits n.whole
      if !n.fraction.isEmpty || n.exponent.isSome then none
      else if n.negative then if size ≠ 0 ∧ size ≤ 0x8000000000000000 then some (-size) else none
      else if size ≤ 0xFFFFFFFFFFFFFFFF then some size else none
  | _ => none

/-- The natural number that a value is, if it is written as one. -/
def nat? (value : Value) : Option Nat :=
  value.int?.bind Int.toNat?

/-- The items of an array. -/
def items? : Value → Option (List Value)
  | .array items => some items
  | _ => none

/-- The member of an object that was written last under a key. -/
def member? (key : String) : Value → Option Value
  | .object members => members.reverse.lookup key
  | _ => none

end Value

end FeatureRefs.Json
