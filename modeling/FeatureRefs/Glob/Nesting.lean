import FeatureRefs.Glob.Basic

/-!
# The nesting of globs

A glob is an expression of parts within parts. Several parts in a row, a choice between branches, the
group around branches, a repetition and a class each add a level. A list of globs can be used only if none
of them is nested too deeply.
-/

namespace FeatureRefs.Glob

/-- How deeply the globs of a list may be nested. -/
def nestingLimit : Nat := 250

/-- The level of parts in a row, of which the deepest and the number are known. -/
def rowLevel (count deepest : Nat) : Nat :=
  if count < 2 then deepest else deepest + 1

/-- How many bytes the bounds of a range have. A range of one character is written once. -/
def rangeParts (range : Char × Char) : Nat :=
  if range.1 = range.2 then range.1.utf8Size else range.1.utf8Size + range.2.utf8Size - 1

/-- The level of a class: several parts of it are a level of their own. -/
def classLevel (ranges : List (Char × Char)) : Nat :=
  rowLevel (ranges.foldr (rangeParts · + ·) 0) 1

mutual

/-- How many parts a token has in the row that it stands in. -/
def Token.parts : Token → Nat
  | .literal c => c.utf8Size
  | .everythingBelow => 2
  | .alternates [] => 0
  | _ => 1

/-- The level of a token. -/
def Token.level : Token → Nat
  | .literal _ | .anyByte => 0
  | .anyBytes | .everythingBelow => 1
  -- A group, a choice, a row and a repetition.
  | .leadingDirectories | .innerDirectories => 4
  | .byteClass _ ranges => classLevel ranges
  | .alternates [] => 0
  | .alternates (branch :: branches) =>
      rowLevel (branches.length + 1) (branchesLevel (branch :: branches)) + 1

/-- The number of parts in a row and the level of the deepest. -/
def rowShape : List Token → Nat × Nat
  | [] => (0, 0)
  | token :: tokens =>
      let (count, deepest) := rowShape tokens
      (token.parts + count, max token.level deepest)

/-- The level of the deepest branch. -/
def branchesLevel : List (List Token) → Nat
  | [] => 0
  | branch :: branches =>
      let (count, deepest) := rowShape branch
      max (rowLevel count deepest) (branchesLevel branches)

end

end Glob

/-- How deeply a glob is nested. The ends of the path are parts of the row, too. -/
def Glob.nesting (glob : Glob) : Nat :=
  (Glob.rowShape glob.tokens).2 + 1

/-- Whether a list of globs can be used. -/
def Glob.areUsable (globs : List Glob) : Bool :=
  globs.all (·.nesting ≤ Glob.nestingLimit)

end FeatureRefs
