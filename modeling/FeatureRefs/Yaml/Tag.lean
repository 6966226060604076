import FeatureRefs.Text.Hex
import FeatureRefs.Yaml.Cursor

/-!
# Tags of YAML

A tag is kept as bytes, which need not be text: a percent sign and two digits stand for a byte, and only the
first bits of such bytes are looked at, which tell how many of them make up a character. A zero byte ends what
is written of a tag, though reading goes on behind it.
-/

namespace FeatureRefs.Yaml

/-- A tag, or a part of one. -/
abbrev Tag := List UInt8

namespace Tag

/-- The tag that is written with the characters of a text as they are. -/
def ofChars (text : List Char) : Tag :=
  text.flatMap String.utf8EncodeChar

/-- How many bytes follow the one that begins a character, as the first bits of that one tell. -/
def following? (byte : UInt8) : Option Nat :=
  if byte < 0x80 then some 0
  else if byte < 0xC0 then none
  else if byte < 0xE0 then some 1
  else if byte < 0xF0 then some 2
  else if byte < 0xF8 then some 3
  else none

/-- Whether a byte goes on with a character. -/
def isFollowing (byte : UInt8) : Bool :=
  0x80 ≤ byte && byte < 0xC0

/-- Resolves the percent signs of a text. The character that is begun lacks as many bytes as the number
says, and they must come first. -/
def resolve? : Nat → List Char → Option Tag
  | missing, [] => if missing = 0 then some [] else none
  | missing, '%' :: a :: b :: rest => do
      let high ← Text.hexValue? a
      let low ← Text.hexValue? b
      let byte := UInt8.ofNat (16 * high + low)
      let missing ←
        if missing = 0 then following? byte
        else if isFollowing byte then some (missing - 1)
        else none
      return byte :: (← resolve? missing rest)
  | _, '%' :: _ => none
  | missing, c :: rest =>
      if missing = 0 then (resolve? 0 rest).map (String.utf8EncodeChar c ++ ·) else none

/-- What comes before the first zero byte. -/
def beforeZero (bytes : Tag) : Tag :=
  bytes.takeWhile (· != 0)

end Tag

/-! ## Reading tags -/

/-- The characters of the part of a tag behind its handle. -/
def isTagChar (isVerbatim : Bool) (c : Char) : Bool :=
  isNameChar c || ";/?:@&=+$.!~*'()%".toList.contains c ||
    (isVerbatim && [',', '[', ']'].contains c)

/-- Reads the rest of a tag. -/
def tagRest? (isVerbatim : Bool) (c : Cursor) : Option (Tag × Cursor) := do
  let (text, c) := c.takeWhile (isTagChar isVerbatim)
  return ((← Tag.resolve? 0 text).beforeZero, c)

/-- Reads a part of a tag that has a character at least. -/
def tagPart? (isVerbatim : Bool) (c : Cursor) : Option (Tag × Cursor) :=
  if c.rest.head?.any (isTagChar isVerbatim) then tagRest? isVerbatim c else none

/-- Reads the handle of a tag: an exclamation mark, and a name that may have another one behind it. -/
def tagHandle? (c : Cursor) : Option (List Char × Cursor) :=
  match c.rest with
  | '!' :: _ =>
      let (name, c) := c.next.takeWhile isNameChar
      if c.rest.head? == some '!' then some ('!' :: name ++ ['!'], c.next)
      else some ('!' :: name, c)
  | _ => none

/-- Reads a tag: its handle, and the part behind it. A whole tag has no handle, and so has a lone exclamation
mark. -/
def tag? (c : Cursor) : Option (String × Tag × Cursor) :=
  match c.rest with
  | '!' :: '<' :: _ => do
      let (suffix, c) ← tagPart? true (c.advance 2)
      if c.rest.head? ≠ some '>' then none else some ("", suffix, c.next)
  | _ => do
      let (handle, c) ← tagHandle? c
      if 1 < handle.length && handle.getLast? == some '!' then
        let (suffix, c) ← tagPart? false c
        return (String.ofList handle, suffix, c)
      else
        let (rest, c) ← tagRest? false c
        let suffix := Tag.ofChars handle.tail ++ rest
        return if suffix.isEmpty then ("", Tag.ofChars ['!'], c) else ("!", suffix, c)

end FeatureRefs.Yaml
