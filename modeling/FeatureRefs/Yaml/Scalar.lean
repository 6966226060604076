import FeatureRefs.Text.Hex
import FeatureRefs.Yaml.Cursor

/-!
# YAML scalars

A scalar is written plain, between quotes, or as a block of lines. A line break inside a plain or
quoted scalar becomes a blank, and empty lines keep their breaks. A block is literal, or folded in the
same way, and says what becomes of its last line breaks.
-/

namespace FeatureRefs.Yaml

/-- Blanks and line breaks between two words of a scalar. -/
structure Gap where
  /-- The blanks before the first line break. -/
  blanks : List Char := []
  /-- The first line break, if there is one. -/
  first : List Char := []
  /-- The other line breaks. -/
  others : List Char := []
  /-- Whether there is a line break. -/
  isFolded : Bool := false

namespace Gap

/-- What a gap becomes: its blanks, or a blank for a line break, or the breaks of empty lines. A first
break that is a separator stays. -/
def text (g : Gap) : List Char :=
  if !g.isFolded then g.blanks
  else if g.first == ['\n'] then if g.others.isEmpty then [' '] else g.others
  else g.first ++ g.others

/-- A gap with a line break behind it. -/
def addBreak (g : Gap) (c : Char) : Gap :=
  if g.isFolded then { g with others := g.others ++ [c] }
  else { g with blanks := [], first := [c], isFolded := true }

/-- A gap with a blank behind it. -/
def addBlank (g : Gap) (c : Char) : Gap :=
  if g.isFolded then g else { g with blanks := g.blanks ++ [c] }

/-- Reads a gap whose line breaks are normal. -/
def addAll (g : Gap) (gap : List Char) : Gap :=
  gap.foldl (fun g c => if isSpace c then g.addBlank c else g.addBreak c) g

end Gap

/-! ## Plain scalars -/

/-- The marks of collections between brackets. -/
def isFlowMark (c : Char) : Bool :=
  c == ',' || c == '[' || c == ']' || c == '\x7b' || c == '\x7d'

/-- The next word of a plain scalar. Inside brackets a colon must not stand right before a mark. -/
def plainWord? (inFlow : Bool) : List Char → Option (List Char)
  | [] => some []
  | c :: rest =>
      if isGap c || (c == ':' && gapOrEnd rest) then some []
      else if inFlow && c == ':' && rest.head?.any (fun d => isFlowMark d || d == '?') then none
      else if inFlow && isFlowMark c then some []
      else (plainWord? inFlow rest).map (c :: ·)

/-- Whether a tab stands in the indentation of one of the lines of a gap. -/
def hasTabInIndentation (indent : Int) (isFolded : Bool) (column : Nat) : List Char → Bool
  | [] => false
  | c :: rest =>
      if isBreak c then hasTabInIndentation indent true 0 rest
      else (isFolded && c == '\t' && (column : Int) < indent) ||
        hasTabInIndentation indent isFolded (column + 1) rest

/-- Reads on in a plain scalar whose lines are indented to `indent`. Answers its text, the place behind
it, and whether the last gap has a line break. -/
def plainScalar? (inFlow : Bool) (indent : Int) :
    Nat → Cursor → List Char → Gap → Option (List Char × Cursor × Bool)
  | 0, _, _, _ => none
  | fuel + 1, c, text, gap =>
      if c.atDocumentMark || c.rest.head? == some '#' then
        some (text, c, gap.isFolded)
      else do
        let word ← plainWord? inFlow c.rest
        -- A gap counts only if another word follows it.
        let text := if word.isEmpty then text else text ++ gap.text ++ word
        let gap := if word.isEmpty then gap else {}
        let (blanks, behind) := (c.advance word.length).takeWhile isGap
        let column := c.column + word.length
        if blanks.isEmpty then
          some (text, behind, gap.isFolded)
        else if hasTabInIndentation indent gap.isFolded column blanks then
          none
        else
          let gap := gap.addAll (normalBreaks blanks)
          if !inFlow && (behind.column : Int) < indent then
            some (text, behind, gap.isFolded)
          else
            plainScalar? inFlow indent fuel behind text gap

/-! ## Quoted scalars -/

/-- The character of a code in `n` hexadecimal digits, and what follows the digits. -/
def hexEscape? (n : Nat) (text : List Char) : Option (Char × List Char) := do
  if text.length < n then
    none
  else
    let digits ← (text.take n).mapM Text.hexValue?
    let code := digits.foldl (fun code d => 16 * code + d) 0
    if code.isValidChar then some (Char.ofNat code, text.drop n) else none

/-- The character that an escape stands for, and what follows it. -/
def escape? : List Char → Option (Char × List Char)
  | 'x' :: rest => hexEscape? 2 rest
  | 'u' :: rest => hexEscape? 4 rest
  | 'U' :: rest => hexEscape? 8 rest
  | c :: rest =>
      ([('0', '\x00'), ('a', '\x07'), ('b', '\x08'), ('t', '\t'), ('\t', '\t'), ('n', '\n'),
        ('v', '\x0b'), ('f', '\x0c'), ('r', '\r'), ('e', '\x1b'), (' ', ' '), ('"', '"'),
        ('/', '/'), ('\\', '\\'), ('N', '\u0085'), ('_', '\u00a0'), ('L', '\u2028'),
        ('P', '\u2029')].lookup c).map (·, rest)
  | [] => none

/-- Why a word of a quoted scalar ends. -/
inductive WordEnd where
  | gap
  | quote
  /-- An escaped line break. -/
  | continued
deriving DecidableEq

/-- Reads a word of a scalar in double quotes and answers it with the place behind it. -/
def doubleQuotedWord? : Nat → Cursor → List Char → Option (List Char × Cursor × WordEnd)
  | 0, _, _ => none
  | fuel + 1, c, text =>
      match c.rest with
      | [] => some (text, c, .gap)
      | '"' :: _ => some (text, c.next, .quote)
      | '\\' :: rest =>
          if !rest.isEmpty && breakOrEnd rest then
            some (text, c.next.skipBreak, .continued)
          else do
            let (char, behind) ← escape? rest
            doubleQuotedWord? fuel (c.advance (c.rest.length - behind.length)) (text ++ [char])
      | char :: _ =>
          if isGap char then some (text, c, .gap)
          else doubleQuotedWord? fuel c.next (text ++ [char])

/-- Reads a word of a scalar in single quotes and answers it with the place behind it. -/
def singleQuotedWord? : Nat → Cursor → List Char → Option (List Char × Cursor × WordEnd)
  | 0, _, _ => none
  | fuel + 1, c, text =>
      match c.rest with
      | [] => some (text, c, .gap)
      | '\'' :: '\'' :: _ => singleQuotedWord? fuel (c.advance 2) (text ++ ['\''])
      | '\'' :: _ => some (text, c.next, .quote)
      | char :: _ =>
          if isGap char then some (text, c, .gap)
          else singleQuotedWord? fuel c.next (text ++ [char])

/-- Reads on in a quoted scalar behind its opening quote. No document may begin or end in it. -/
def quotedScalar? (isSingle : Bool) : Nat → Cursor → List Char → Option (List Char × Cursor)
  | 0, _, _ => none
  | fuel + 1, c, text =>
      if c.atDocumentMark || c.rest.isEmpty then
        none
      else do
        let word? := if isSingle then singleQuotedWord? else doubleQuotedWord?
        let (text, behind, reason) ← word? (c.rest.length + 1) c text
        if reason = .quote then
          some (text, behind)
        else
          let (blanks, c) := behind.takeWhile isGap
          let gap : Gap := { isFolded := reason = .continued }
          quotedScalar? isSingle fuel c (text ++ (gap.addAll (normalBreaks blanks)).text)

/-! ## Block scalars -/

/-- What becomes of the line breaks at the end of a block. -/
inductive Chomping where
  | strip
  | clip
  | keep
deriving DecidableEq

/-- The chomping of a mark. -/
def Chomping.ofMark? : Char → Option Chomping
  | '-' => some .strip
  | '+' => some .keep
  | _ => none

/-- The head of a block: its chomping and how far it is indented, if that is said, and the place behind.
A zero is no indentation. -/
def blockHead? (c : Cursor) : Option (Chomping × Option Nat × Cursor) :=
  let digit? (c : Cursor) : Option (Option Nat × Cursor) :=
    match c.rest with
    | d :: _ =>
        if d == '0' then none
        else if d.isDigit then some (some (d.toNat - '0'.toNat), c.next)
        else some (none, c)
    | [] => some (none, c)
  let mark (c : Cursor) : Option Chomping × Cursor :=
    match c.rest.head?.bind Chomping.ofMark? with
    | some chomping => (some chomping, c.next)
    | none => (none, c)
  match mark c with
  | (some chomping, c) => (digit? c).map fun (indent, c) => (chomping, indent, c)
  | (none, c) => do
      let (indent, c) ← digit? c
      let (chomping, c) := if indent.isSome then mark c else (none, c)
      return (chomping.getD .clip, indent, c)

/-- Reads empty lines of a block and the indentation behind them. Where `indent` is not known all blanks
are indentation. Answers the line breaks, the place behind, and the widest indentation. -/
def emptyLines? (indent : Option Nat) :
    Nat → Cursor → List Char → Nat → Option (List Char × Cursor × Nat)
  | 0, _, _, _ => none
  | fuel + 1, c, breaks, widest =>
      let blanks := c.rest.takeWhile (· == ' ')
      let width :=
        match indent with
        | some indent => min blanks.length (indent - c.column)
        | none => blanks.length
      let c := c.advance width
      let widest := max widest c.column
      match c.rest with
      | '\t' :: _ =>
          if indent.all (c.column < ·) then none else some (breaks, c, widest)
      | char :: _ =>
          if isBreak char then
            let behind := c.skipBreak
            let read := c.rest.take (c.rest.length - behind.rest.length)
            emptyLines? indent fuel behind (breaks ++ normalBreaks read) widest
          else
            some (breaks, c, widest)
      | [] => some (breaks, c, widest)

/-- The state of reading a block. -/
structure Block where
  text : List Char := []
  /-- The line break of the last line. -/
  lastBreak : List Char := []
  /-- The breaks of the empty lines behind it. -/
  emptyBreaks : List Char := []
  /-- Whether the last line begins with a blank. -/
  wasIndented : Bool := false

/-- A block with another line. In a folded block a single break between two lines that do not begin with
a blank becomes a blank. -/
def Block.addLine (isLiteral : Bool) (b : Block) (line lastBreak : List Char) : Block :=
  let isIndented := line.head?.any isSpace
  let folds := !isLiteral && b.lastBreak == ['\n'] && !b.wasIndented && !isIndented
  let joint :=
    if folds then if b.emptyBreaks.isEmpty then [' '] else [] else b.lastBreak
  { text := b.text ++ joint ++ b.emptyBreaks ++ line
    lastBreak := lastBreak
    wasIndented := isIndented }

/-- The text of a block. -/
def Block.chomp (chomping : Chomping) (b : Block) : List Char :=
  match chomping with
  | .strip => b.text
  | .clip => b.text ++ b.lastBreak
  | .keep => b.text ++ b.lastBreak ++ b.emptyBreaks

/-- Reads the lines of a block that is indented to `indent`. -/
def blockLines? (isLiteral : Bool) (indent : Nat) : Nat → Cursor → Block → Option (Block × Cursor)
  | 0, _, _ => none
  | fuel + 1, c, b =>
      if c.column ≠ indent || c.rest.isEmpty then
        some (b, c)
      else do
        let (line, c) := c.takeWhile (!isBreak ·)
        let behind := c.skipBreak
        let lastBreak := normalBreaks (c.rest.take (c.rest.length - behind.rest.length))
        let b := b.addLine isLiteral line lastBreak
        let (breaks, c, _) ← emptyLines? (some indent) (behind.rest.length + 1) behind [] 0
        blockLines? isLiteral indent fuel c { b with emptyBreaks := breaks }

/-- Reads a block behind its mark. `outer` is the indentation of the collection around it. -/
def blockScalar? (isLiteral : Bool) (outer : Int) (c : Cursor) : Option (List Char × Cursor) := do
  let (chomping, extra, c) ← blockHead? c
  let c := c.skipComment
  if !breakOrEnd c.rest then
    none
  else
    let c := c.skipBreak
    let least := (outer + 1).toNat.max 1
    let known := extra.map fun extra => outer.toNat + extra
    let (breaks, c, widest) ← emptyLines? known (c.rest.length + 1) c [] 0
    let indent := known.getD (widest.max least)
    let (block, c) ←
      blockLines? isLiteral indent (c.rest.length + 1) c { emptyBreaks := breaks }
    return (block.chomp chomping, c)

end FeatureRefs.Yaml
