import FeatureRefs.Glob.Basic

/-!
# Reading globs

A glob is read character by character. Stars are looked at together with what surrounds them: two
stars that make up a whole name stand for directories, other stars are wildcards. A backslash takes
the meaning from the next character. Braces hold branches with commas between them; brackets hold a
class of characters and ranges.
-/

namespace FeatureRefs.Glob

/-- An alternation whose closing brace is still to come. -/
structure OpenBrace where
  /-- The tokens in front of it, read backwards. -/
  before : List Token
  /-- The branches that are complete, read backwards. -/
  branches : List (List Token)

/-- A class whose closing bracket is still to come. -/
structure OpenClass where
  negated : Bool := false
  /-- The ranges so far, read backwards. -/
  ranges : List (Char × Char) := []
  /-- Whether nothing of the class was read but its negation. -/
  first : Bool := true
  /-- Whether the last range waits for its end. -/
  inRange : Bool := false

/-- What the next character is part of. -/
inductive Mode where
  | plain
  /-- The character behind a backslash. -/
  | escape
  /-- What follows a star, with the character before the star. -/
  | star (before : Option Char)
  /-- What follows two stars, with the character before them. -/
  | twoStars (before : Option Char)
  /-- What follows an opening bracket. -/
  | bracket
  | inClass (c : OpenClass)

/-- A glob that is read in part. -/
structure Reading where
  /-- The braces that are open, innermost first. -/
  braces : List OpenBrace := []
  /-- The tokens since the last brace or comma, read backwards. -/
  tokens : List Token := []
  /-- The last character. -/
  last : Option Char := none
  mode : Mode := .plain

namespace Reading

/-- Adds a token. -/
def push (r : Reading) (token : Token) : Reading :=
  { r with tokens := token :: r.tokens, mode := .plain }

/-- Adds two wildcards for two stars that make up no name. -/
def pushWildcards (r : Reading) : Reading :=
  (r.push .anyBytes).push .anyBytes

/-- Puts a token for whole directories in place of the slash in front of the stars. Such a token at
the beginning or the end takes the stars in. -/
def pushDirectories (r : Reading) (token : Token) : Reading :=
  match r.tokens with
  | .leadingDirectories :: _ => { r with mode := .plain }
  | .everythingBelow :: _ => { r with mode := .plain }
  | tokens => { r with tokens := token :: tokens.tail, mode := .plain }

/-- Whether a character may stand before two stars that make up a name. -/
def opensName (r : Reading) : Option Char → Bool
  | some '/' => true
  | some ',' => !r.braces.isEmpty
  | some '\x7b' => !r.braces.isEmpty
  | _ => false

/-- Reads two stars with the character before them and the one that follows. Says also whether the
latter was taken in. -/
def pushTwoStars (r : Reading) (before next : Option Char) : Reading × Bool :=
  -- With nothing in front of them the stars may make up the first name of a path.
  if r.tokens.isEmpty then
    if next.all (· == '/') then (r.push .leadingDirectories, true) else (r.pushWildcards, false)
  else if !r.opensName before then
    (r.pushWildcards, false)
  else
    match next with
    | none => (r.pushDirectories .everythingBelow, true)
    | some '/' => (r.pushDirectories .innerDirectories, true)
    | some c =>
        -- The end of a branch ends a name, too, and is read once more for itself.
        if (c == ',' || c == '\x7d') && !r.braces.isEmpty then
          (r.pushDirectories .everythingBelow, false)
        else
          (r.pushWildcards, false)

/-- Drops branches that stand for nothing at all. -/
def nonemptyBranches (branches : List (List Token)) : List (List Token) :=
  branches.filter fun branch =>
    !branch.all fun
      | .alternates [] => true
      | _ => false

/-- Reads a closing brace. -/
def closeBrace? (r : Reading) : Option Reading :=
  match r.braces with
  | [] => none
  | brace :: outer =>
      let branches := (r.tokens.reverse :: brace.branches).reverse
      some { r with
        braces := outer
        tokens := .alternates (nonemptyBranches branches) :: brace.before }

/-- Reads a comma. -/
def comma (r : Reading) : Reading :=
  match r.braces with
  | [] => r.push (.literal ',')
  | brace :: outer =>
      { r with
        braces := { brace with branches := r.tokens.reverse :: brace.branches } :: outer
        tokens := [] }

/-- Reads a character that no other character gives a meaning to. -/
def plain? (r : Reading) (c : Char) : Option Reading :=
  match c with
  | '?' => some (r.push .anyByte)
  | '*' => some { r with mode := .star r.last }
  | '[' => some { r with mode := .bracket }
  | '\x7b' => some { r with braces := ⟨r.tokens, []⟩ :: r.braces, tokens := [] }
  | '\x7d' => r.closeBrace?
  | ',' => some r.comma
  | '\\' => some { r with mode := .escape }
  | c => some (r.push (.literal c))

/-- Ends a class. A hyphen that waits for the end of a range stands for itself. -/
def closeClass (r : Reading) (part : OpenClass) : Reading :=
  let ranges := if part.inRange then ('-', '-') :: part.ranges else part.ranges
  r.push (.byteClass part.negated ranges.reverse)

/-- Sets the end of the last range, which must not lie before its beginning. -/
def endRange? (part : OpenClass) (c : Char) : Option OpenClass :=
  match part.ranges with
  | (first, _) :: ranges =>
      if c < first then none
      else some { part with ranges := (first, c) :: ranges, first := false, inRange := false }
  | [] => none

/-- Reads a character of a class. -/
def classChar? (r : Reading) (part : OpenClass) (c : Char) : Option Reading :=
  let single : OpenClass :=
    { part with ranges := (c, c) :: part.ranges, first := false, inRange := false }
  let continued (part : OpenClass) : Reading := { r with mode := .inClass part }
  if part.first then
    some (continued single)
  else if c = ']' then
    some (r.closeClass part)
  else if part.inRange then
    (endRange? part c).map continued
  else if c = '-' then
    some (continued { part with inRange := true })
  else
    some (continued single)

/-- Reads a character. -/
def step? (r : Reading) (c : Char) : Option Reading := do
  let next ←
    match r.mode with
    | .plain => r.plain? c
    | .escape => some (r.push (.literal c))
    | .star before =>
        if c = '*' then some { r with mode := .twoStars before }
        else (r.push .anyBytes).plain? c
    | .twoStars before =>
        match r.pushTwoStars before (some c) with
        | (r, true) => some r
        | (r, false) => r.plain? c
    | .bracket =>
        if c = '!' ∨ c = '^' then some { r with mode := .inClass { negated := true } }
        else r.classChar? {} c
    | .inClass part => r.classChar? part c
  return { next with last := some c }

/-- Ends the glob; no brace, bracket or backslash may be open. -/
def finish? (r : Reading) : Option (List Token) := do
  let r ←
    match r.mode with
    | .plain => some r
    | .star _ => some (r.push .anyBytes)
    | .twoStars before => some (r.pushTwoStars before none).1
    | .escape | .bracket | .inClass _ => none
  if r.braces.isEmpty then some r.tokens.reverse else none

end Reading

end Glob

/-- Reads a glob. -/
def Glob.parse? (pattern : List Char) : Option Glob :=
  ((pattern.foldlM Glob.Reading.step? {}).bind Glob.Reading.finish?).map Glob.mk

end FeatureRefs
