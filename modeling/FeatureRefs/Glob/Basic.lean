/-!
# Globs

A glob is a list of tokens that describes paths as bytes of UTF-8. A wildcard stands for any bytes,
slashes included. Three tokens come from two stars between slashes: they stand for any number of
whole directories at the beginning, at the end or in the middle of a path.

Matching keeps the set of what may be left of the path after the tokens so far. A glob matches a path
if nothing may be left of it after all tokens.
-/

namespace FeatureRefs.Glob

/-- A part of a glob. -/
inductive Token where
  | literal (c : Char)
  /-- One byte. -/
  | anyByte
  /-- Any bytes. -/
  | anyBytes
  /-- Nothing, or anything up to a slash. -/
  | leadingDirectories
  /-- A slash and anything behind it. -/
  | everythingBelow
  /-- A slash, or anything between two slashes with the slashes. -/
  | innerDirectories
  /-- One byte inside the ranges, or outside them. -/
  | byteClass (negated : Bool) (ranges : List (Char × Char))
  /-- One of the branches. Without branches it stands for nothing at all. -/
  | alternates (branches : List (List Token))
deriving Repr

/-- What follows the bytes `expected` at the head of a text. -/
def dropBytes? : List UInt8 → List UInt8 → Option (List UInt8)
  | [], text => some text
  | _ :: _, [] => none
  | e :: expected, b :: text => if e = b then dropBytes? expected text else none

/-- What may be left after any bytes. -/
def suffixes : List UInt8 → List (List UInt8)
  | [] => [[]]
  | b :: text => (b :: text) :: suffixes text

/-- The byte of a slash. -/
def slash : UInt8 := 0x2F

/-- What may be left after any bytes that end in a slash. -/
def behindSlashes : List UInt8 → List (List UInt8)
  | [] => []
  | b :: text => if b = slash then text :: behindSlashes text else behindSlashes text

/-- The bytes between two characters: the last byte of the first character up to the first byte of the
second, and the other bytes of both. -/
def rangeHas (range : Char × Char) (byte : UInt8) : Bool :=
  if range.1 = range.2 then
    (String.utf8EncodeChar range.1).contains byte
  else
    let first := String.utf8EncodeChar range.1
    let last := String.utf8EncodeChar range.2
    first.contains byte || last.contains byte ||
      (first.getLast?.any (· ≤ byte) && last.head?.any (byte ≤ ·))

/-- Whether a byte belongs to a class. -/
def classHas (negated : Bool) (ranges : List (Char × Char)) (byte : UInt8) : Bool :=
  ranges.any (rangeHas · byte) != negated

/-- What may be left of a text after a token other than an alternation. -/
def Token.rests : Token → List UInt8 → List (List UInt8)
  | literal c, text => (dropBytes? (String.utf8EncodeChar c) text).toList
  | anyByte, text => text.tail?.toList
  | anyBytes, text => suffixes text
  | leadingDirectories, text => text :: behindSlashes text
  | everythingBelow, text =>
      match text with
      | b :: rest => if b = slash then suffixes rest else []
      | [] => []
  | innerDirectories, text =>
      match text with
      | b :: rest => if b = slash then rest :: behindSlashes rest else []
      | [] => []
  | byteClass negated ranges, text =>
      match text with
      | b :: rest => if classHas negated ranges b then [rest] else []
      | [] => []
  | alternates _, _ => []

mutual

/-- What may be left after a token of what may be left before it. -/
def Token.advance : Token → List (List UInt8) → List (List UInt8)
  | .alternates [], texts => texts
  | .alternates (branch :: branches), texts => advanceAny (branch :: branches) texts
  | token, texts => (texts.flatMap token.rests).eraseDups

/-- What may be left after tokens in a row. -/
def advanceAll : List Token → List (List UInt8) → List (List UInt8)
  | [], texts => texts
  | token :: tokens, texts => advanceAll tokens (token.advance texts)

/-- What may be left after one of the branches. -/
def advanceAny : List (List Token) → List (List UInt8) → List (List UInt8)
  | [], _ => []
  | branch :: branches, texts => advanceAll branch texts ++ advanceAny branches texts

end

end Glob

/-- A description of paths. -/
structure Glob where
  tokens : List Glob.Token
deriving Repr

/-- Whether a glob matches a path. Two stars alone match every path. -/
def Glob.isMatch (glob : Glob) (path : String) : Bool :=
  match glob.tokens with
  | [.leadingDirectories] => true
  | tokens => (Glob.advanceAll tokens [path.toUTF8.toList]).contains []

end FeatureRefs
