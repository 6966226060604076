import FeatureRefs.Yaml.Scalar
import FeatureRefs.Yaml.Tag

/-!
# YAML tokens

The indentation of a text is turned into tokens that open and close collections. A key without a mark
of its own is only known when its colon comes; the token of the key is then put in front of it.
-/

namespace FeatureRefs.Yaml

/-- A token of YAML. -/
inductive Token where
  | streamEnd
  | version (major minor : Nat)
  /-- A short form for the beginning of tags. -/
  | tagHandle (handle : String) (meaning : Tag)
  | documentStart
  | documentEnd
  | blockSequence
  | blockMapping
  | blockEnd
  | flowSequence
  | flowSequenceEnd
  | flowMapping
  | flowMappingEnd
  | blockEntry
  | flowEntry
  | key
  | value
  | alias (name : String)
  | anchor (name : String)
  | tag (handle : String) (suffix : Tag)
  | scalar (text : String) (isPlain : Bool)
deriving Repr, DecidableEq

/-! ## Names, tags and directives -/

/-- Reads the name of an anchor or alias. -/
def anchorName? (c : Cursor) : Option (String × Cursor) :=
  let (name, c) := c.takeWhile isNameChar
  let ends := gapOrEnd c.rest ||
    c.rest.head?.any fun d => ['?', ':', ',', ']', '\x7d', '%', '@', '`'].contains d
  if name.isEmpty || !ends then none else some (String.ofList name, c)

/-- Reads a tag, which a gap must follow. -/
def tagToken? (inFlow : Bool) (c : Cursor) : Option (Token × Cursor) := do
  let (handle, suffix, c) ← tag? c
  if gapOrEnd c.rest || (inFlow && c.rest.head? == some ',') then some (.tag handle suffix, c) else none

/-- Reads a number of a version. -/
def versionNumber? (c : Cursor) : Option (Nat × Cursor) :=
  let (digits, c) := c.takeWhile Char.isDigit
  if digits.isEmpty || 9 < digits.length then none
  else some (digits.foldl (fun n d => 10 * n + (d.toNat - '0'.toNat)) 0, c)

/-- Reads a directive behind its percent sign: the version, or a short form for tags. -/
def directive? (c : Cursor) : Option (Token × Cursor) := do
  let (name, c) := c.takeWhile isNameChar
  if !gapOrEnd c.rest then
    none
  else
    let c := c.skipWhile isSpace
    let (token, c) ←
      if name == "YAML".toList then do
        let (major, c) ← versionNumber? c
        if c.rest.head? ≠ some '.' then none
        else
          let (minor, c) ← versionNumber? c.next
          some (Token.version major minor, c)
      else if name == "TAG".toList then do
        let (handle, c) ← tagHandle? c
        if (handle != ['!'] && handle.getLast? != some '!') || !c.rest.head?.any isSpace then none
        else
          let (meaning, c) ← tagPart? true (c.skipWhile isSpace)
          if !gapOrEnd c.rest then none
          else some (Token.tagHandle (String.ofList handle) meaning, c)
      else
        none
    let c := c.skipComment
    if breakOrEnd c.rest then some (token, c.skipBreak) else none

/-! ## The state of reading -/

/-- A place where a key without a mark may begin. -/
structure PossibleKey where
  /-- The number of tokens in front of it. -/
  place : Nat
  /-- Whether nothing but a key may stand there. -/
  isRequired : Bool
  start : Cursor

/-- Tokens that are read in part. -/
structure Reading where
  cursor : Cursor
  tokens : List Token := []
  /-- The column of the innermost block collection. -/
  indent : Int := -1
  /-- The columns of those around it, innermost first. -/
  outer : List Int := []
  /-- Whether a key may begin here. -/
  allowsKey : Bool := true
  /-- The possible key between each pair of open brackets, innermost first, and outside of all. -/
  keys : List (Option PossibleKey) := [none]

namespace Reading

/-- Whether a bracket is open. -/
def inFlow (r : Reading) : Bool :=
  1 < r.keys.length

/-- Adds a token. -/
def push (r : Reading) (token : Token) : Reading :=
  { r with tokens := r.tokens ++ [token] }

/-- Puts a token in front of others. -/
def insert (r : Reading) (place : Nat) (token : Token) : Reading :=
  { r with tokens := r.tokens.take place ++ token :: r.tokens.drop place }

/-- Opens a block collection at a column that is further in than the innermost one. -/
def openBlock (r : Reading) (column place : Nat) (token : Token) : Reading :=
  if r.inFlow || (column : Int) ≤ r.indent then r
  else { r.insert place token with indent := column, outer := r.indent :: r.outer }

/-- Closes the block collections that are further in than a column. -/
def closeBlocks (r : Reading) (column : Int) : Reading :=
  if r.inFlow then r
  else
    let rec close (indent : Int) (tokens : List Token) : List Int → Reading
      | [] => { r with indent := indent, outer := [], tokens := tokens }
      | next :: outer =>
          if column < indent then close next (tokens ++ [.blockEnd]) outer
          else { r with indent := indent, outer := next :: outer, tokens := tokens }
    close r.indent r.tokens r.outer

/-- Gives up the innermost possible key, unless it is required. -/
def dropKey? (r : Reading) : Option Reading :=
  match r.keys with
  | some key :: outer => if key.isRequired then none else some { r with keys := none :: outer }
  | _ => some r

/-- Notes that a key may begin here. -/
def noteKey? (r : Reading) : Option Reading :=
  if !r.allowsKey then some r
  else do
    let isRequired := !r.inFlow && r.indent == r.cursor.column
    let r ← r.dropKey?
    return { r with keys := some ⟨r.tokens.length, isRequired, r.cursor⟩ :: r.keys.tail }

/-- How many bytes a key without a mark may have. -/
def keyLimit : Nat := 1024

/-- Gives up the possible keys that are on another line or too long, none of which may be required. -/
def dropStaleKeys? (r : Reading) : Option Reading := do
  let keys ← r.keys.mapM fun
    | some key =>
        if key.start.line < r.cursor.line || key.start.index + keyLimit < r.cursor.index then
          if key.isRequired then none else some none
        else some (some key)
    | none => some none
  return { r with keys }

/-- Reads over byte order marks, blanks, comments and line breaks up to the next token. -/
def skipGaps : Nat → Reading → Reading
  | 0, r => r
  | fuel + 1, r =>
      let isSkipped (c : Char) : Bool := c == ' ' || ((r.inFlow || !r.allowsKey) && c == '\t')
      let c := r.cursor.skipByteOrderMark.skipWhile isSkipped
      let c := if c.rest.head? == some '#' then c.skipWhile (!isBreak ·) else c
      if c.rest.head?.any isBreak then
        skipGaps fuel { r with cursor := c.skipBreak, allowsKey := r.allowsKey || !r.inFlow }
      else
        { r with cursor := c }

/-! ## Single tokens -/

/-- Reads a token of `n` characters. -/
def pushMark (r : Reading) (n : Nat) (token : Token) : Reading :=
  { r.push token with cursor := r.cursor.advance n }

/-- Ends the text. -/
def readEnd? (r : Reading) : Option Reading := do
  let r ← (r.closeBlocks (-1)).dropKey?
  return { r with allowsKey := false }.push .streamEnd

/-- Reads a directive. -/
def readDirective? (r : Reading) : Option Reading := do
  let r ← (r.closeBlocks (-1)).dropKey?
  let (token, cursor) ← directive? r.cursor.next
  return { r.push token with cursor, allowsKey := false }

/-- Reads the mark of a document. -/
def readDocumentMark? (token : Token) (r : Reading) : Option Reading := do
  let r ← (r.closeBlocks (-1)).dropKey?
  return { r with allowsKey := false }.pushMark 3 token

/-- Reads an opening bracket. -/
def readOpening? (token : Token) (r : Reading) : Option Reading := do
  let r ← r.noteKey?
  return { r with keys := none :: r.keys, allowsKey := true }.pushMark 1 token

/-- Reads a closing bracket. -/
def readClosing? (token : Token) (r : Reading) : Option Reading := do
  let r ← r.dropKey?
  let keys := if r.inFlow then r.keys.tail else r.keys
  return { r with keys, allowsKey := false }.pushMark 1 token

/-- Reads a comma. -/
def readFlowEntry? (r : Reading) : Option Reading := do
  let r ← r.dropKey?
  return { r with allowsKey := true }.pushMark 1 .flowEntry

/-- Reads the mark of an item. -/
def readBlockEntry? (r : Reading) : Option Reading := do
  if !r.inFlow && !r.allowsKey then
    none
  else
    let r := r.openBlock r.cursor.column r.tokens.length .blockSequence
    let r ← r.dropKey?
    return { r with allowsKey := true }.pushMark 1 .blockEntry

/-- Reads the mark of a key. -/
def readKey? (r : Reading) : Option Reading := do
  if !r.inFlow && !r.allowsKey then
    none
  else
    let r := r.openBlock r.cursor.column r.tokens.length .blockMapping
    let r ← r.dropKey?
    return { r with allowsKey := !r.inFlow }.pushMark 1 .key

/-- Reads the colon between key and value. -/
def readValue? (r : Reading) : Option Reading :=
  match r.keys with
  | some key :: outer =>
      -- The key was read already, so its token goes in front of what was read since.
      let r := { r with keys := none :: outer }.insert key.place .key
      let r := r.openBlock key.start.column key.place .blockMapping
      some ({ r with allowsKey := false }.pushMark 1 .value)
  | _ =>
      if !r.inFlow && !r.allowsKey then none
      else
        let r := r.openBlock r.cursor.column r.tokens.length .blockMapping
        some ({ r with allowsKey := !r.inFlow }.pushMark 1 .value)

/-- Reads a token that a key may begin with. -/
def readNode? (read : Cursor → Option (Token × Cursor)) (r : Reading) : Option Reading := do
  let r ← r.noteKey?
  let (token, cursor) ← read r.cursor
  return { r.push token with cursor, allowsKey := false }

/-- Reads a block scalar. -/
def readBlock? (isLiteral : Bool) (r : Reading) : Option Reading := do
  let r ← r.dropKey?
  let (text, cursor) ← blockScalar? isLiteral r.indent r.cursor.next
  return { r.push (.scalar (String.ofList text) false) with cursor, allowsKey := true }

/-- Reads a scalar between quotes. -/
def quoted? (isSingle : Bool) (c : Cursor) : Option (Token × Cursor) :=
  (quotedScalar? isSingle (c.rest.length + 1) c.next []).map fun (text, c) =>
    (.scalar (String.ofList text) false, c)

/-- Reads a plain scalar. A key may begin behind it if it ends with a line. -/
def readPlain? (r : Reading) : Option Reading := do
  let r ← r.noteKey?
  let (text, cursor, isFolded) ←
    plainScalar? r.inFlow (r.indent + 1) (r.cursor.rest.length + 1) r.cursor [] {}
  return { r.push (.scalar (String.ofList text) true) with cursor, allowsKey := isFolded }

/-- Whether a plain scalar may begin with a character. -/
def beginsPlain (r : Reading) (char : Char) (rest : List Char) : Bool :=
  (!isGap char && !"-?:,[]\x7b\x7d#&*!|>'\"%@`".toList.contains char) ||
    (char == '-' && !rest.head?.any isSpace) ||
    (!r.inFlow && (char == '?' || char == ':') && !gapOrEnd rest)

/-- Reads a token that begins with a character. -/
def readToken? (r : Reading) (char : Char) (rest : List Char) : Option Reading :=
  if r.cursor.column == 0 && char == '%' then r.readDirective?
  else if r.cursor.atMark '-' then r.readDocumentMark? .documentStart
  else if r.cursor.atMark '.' then r.readDocumentMark? .documentEnd
  else if char == '[' then r.readOpening? .flowSequence
  else if char == '\x7b' then r.readOpening? .flowMapping
  else if char == ']' then r.readClosing? .flowSequenceEnd
  else if char == '\x7d' then r.readClosing? .flowMappingEnd
  else if char == ',' then r.readFlowEntry?
  else if char == '-' && gapOrEnd rest then r.readBlockEntry?
  else if char == '?' && (r.inFlow || gapOrEnd rest) then r.readKey?
  else if char == ':' && (r.inFlow || gapOrEnd rest) then r.readValue?
  else if char == '*' then
    r.readNode? fun c => (anchorName? c.next).map fun (name, c) => (.alias name, c)
  else if char == '&' then
    r.readNode? fun c => (anchorName? c.next).map fun (name, c) => (.anchor name, c)
  else if char == '!' then r.readNode? (tagToken? r.inFlow)
  else if char == '|' && !r.inFlow then r.readBlock? true
  else if char == '>' && !r.inFlow then r.readBlock? false
  else if char == '\'' then r.readNode? (quoted? true)
  else if char == '"' then r.readNode? (quoted? false)
  else if r.beginsPlain char rest then r.readPlain?
  else none

/-- Reads the tokens up to the end of the text. -/
def readAll? : Nat → Reading → Option (List Token)
  | 0, _ => none
  | fuel + 1, r => do
      let r ← (skipGaps (r.cursor.rest.length + 1) r).dropStaleKeys?
      let r := r.closeBlocks r.cursor.column
      match r.cursor.rest with
      | [] => (r.readEnd?).map (·.tokens)
      | char :: rest => readAll? fuel (← r.readToken? char rest)

end Reading

/-- The tokens of a text. -/
def Token.scan? (text : List Char) : Option (List Token) :=
  if text.all isAllowed then Reading.readAll? (text.length + 1) { cursor := { rest := text } }
  else none

end FeatureRefs.Yaml
