import FeatureRefs.Unicode.Composition
import FeatureRefs.Unicode.Direction
import FeatureRefs.Unicode.Joining
import FeatureRefs.Uri.HostMapping
import FeatureRefs.Uri.Punycode

/-!
# Host names

A host name is made up of labels with dots between them. In its ASCII form it is in lower case, and a label
beyond ASCII is written in Punycode behind `xn--`. A label that is written so already counts as the text that
it stands for. A label must not begin with a mark, its joiners must have letters to join, and where a label of
the name is written from right to left, every label must keep to one direction.
-/

namespace FeatureRefs.HostName

open Unicode

/-- Whether a text is ASCII. -/
def isAscii (text : List Char) : Bool :=
  text.all (·.toNat < 0x80)

/-- What a label in Punycode begins with. -/
def punycodeMark : List Char := ['x', 'n', '-', '-']

/-- The most characters of a label that is written in Punycode. -/
def encodedLimit : Nat := 1000

/-- The most digits of a label that is read from Punycode. -/
def decodedLimit : Nat := 2000

/-- The ASCII characters that must not stand in a host name. -/
def isForbidden (c : Char) : Bool :=
  c.toNat ≤ 0x20 || c.toNat == 0x7F ||
    ['%', '#', '/', ':', '<', '>', '?', '@', '[', '\\', ']', '^', '|'].contains c

/-! ## Labels -/

/-- The text that a label in Punycode stands for. It is beyond ASCII and in its normal form. -/
def decodeLabel? (digits : List Char) : Option (List Char) := do
  guard (digits.length ≤ decodedLimit)
  let text ← Punycode.decode? digits
  guard (!isAscii text && images text == some text && compose text == text)
  return text

/-- The text that a label stands for. -/
def readLabel? (label : List Char) : Option (List Char) :=
  if punycodeMark.isPrefixOf label then decodeLabel? (label.drop punycodeMark.length) else some label

/-- Whether a joiner between two texts, the first of which is read backwards, has something to join. The first
joiner also stands between two letters that would join without it. -/
def canJoin (joiner : Char) (before after : List Char) : Bool :=
  before.head?.any (fun c => combiningClass c == viramaClass) ||
    joiner == '\u200c' &&
      (before.dropWhile isTransparent).head?.any joinsForward &&
      (after.dropWhile isTransparent).head?.any joinsBackward

/-- Whether all joiners of a label have something to join. `before` is read backwards. -/
def joinersAreValid (before : List Char) : List Char → Bool
  | [] => true
  | c :: rest => (!isJoiner c || canJoin c before rest) && joinersAreValid (c :: before) rest

/-- Whether a label keeps to one direction: it begins with a letter and holds nothing of the other
direction, and it ends in a letter or digit, behind which marks may stand. From right to left it must not have
digits of both kinds. -/
def hasOneDirection (label : List Char) : Bool :=
  let directions := label.map direction
  let last := (directions.reverse.dropWhile (· == .mark)).head?
  match directions.head? with
  | none => true
  | some .rightToLeft =>
      !directions.contains .leftToRight &&
        last.any (fun d => d == .rightToLeft || d == .europeanDigit || d == .arabicDigit) &&
        !(directions.contains .europeanDigit && directions.contains .arabicDigit)
  | some .leftToRight =>
      !directions.contains .rightToLeft && !directions.contains .arabicDigit &&
        last.any fun d => d == .leftToRight || d == .europeanDigit
  | some _ => false

/-- Whether a label has characters that are written from right to left. -/
def isRightToLeft (label : List Char) : Bool :=
  label.any fun c => direction c == .rightToLeft || direction c == .arabicDigit

/-- Whether a label may stand in a host name. -/
def isValidLabel (label : List Char) : Bool :=
  !label.any isForbidden &&
    (isAscii label || (!label.head?.any isMark && joinersAreValid [] label))

/-- The ASCII form of a label. -/
def labelToAscii? (label : List Char) : Option (List Char) :=
  if isAscii label then some label
  else if label.length ≤ encodedLimit then some (punycodeMark ++ Punycode.encode label)
  else none

/-! ## Names -/

/-- The ASCII form of a host name. -/
def toAscii? (name : List Char) : Option (List Char) := do
  let labels ← (Text.split (· == '.') (compose (← images name))).mapM readLabel?
  guard (labels.all isValidLabel)
  guard (!labels.any isRightToLeft || labels.all hasOneDirection)
  return ['.'].intercalate (← labels.mapM labelToAscii?)

end FeatureRefs.HostName
