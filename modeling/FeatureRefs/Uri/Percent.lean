import FeatureRefs.Text.Hex

/-!
# Percent encoding

A byte that may not stand as such is written as a percent sign and two hexadecimal digits in upper
case. Text is taken in UTF-8. Reading leaves a percent sign that no two digits follow as it is.
-/

namespace FeatureRefs.Percent

/-- A hexadecimal digit in upper case. -/
def digit (n : Nat) : Char :=
  if n < 10 then Char.ofNat ('0'.toNat + n) else Char.ofNat ('A'.toNat + (n - 10))

/-- A byte as a percent sign and two digits. -/
def encodeByte (byte : UInt8) : List Char :=
  ['%', digit (byte.toNat / 16), digit (byte.toNat % 16)]

/-- A text in which only the characters that satisfy `plain` stand as such. -/
def encode (plain : Char → Bool) (text : List Char) : List Char :=
  text.flatMap fun c => if plain c then [c] else (String.utf8EncodeChar c).flatMap encodeByte

/-- The bytes that a text stands for. -/
def decode : List Char → List UInt8
  | [] => []
  | '%' :: a :: b :: rest =>
      match Text.hexValue? a, Text.hexValue? b with
      | some high, some low => UInt8.ofNat (16 * high + low) :: decode rest
      | _, _ => '%'.toUInt8 :: decode (a :: b :: rest)
  | c :: rest => String.utf8EncodeChar c ++ decode rest

/-- The text that a text stands for, if its bytes are UTF-8. -/
def decodeText? (text : List Char) : Option String :=
  String.fromUTF8? ⟨(decode text).toArray⟩

end FeatureRefs.Percent
