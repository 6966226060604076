import FeatureRefs.Text.Lines
import FeatureRefs.Unicode.Blank
import FeatureRefs.Glob.Nesting
import FeatureRefs.Glob.Parser

/-!
# Exclusions

An ignore file has a pattern on each line; empty lines and lines that begin with a number sign say
nothing. A pattern excludes the paths that it matches as a glob and everything below them. A pattern
that is no glob is left out. One glob that is nested too deeply voids all of them.
-/

namespace FeatureRefs

/-- The globs of the paths to leave out. -/
structure Exclusion where
  globs : List Glob := []
deriving Repr

namespace Exclusion

/-- The pattern of a line, if it has one. -/
def patternOf? (line : List Char) : Option (List Char) :=
  match Unicode.trimBy Unicode.isBlank line with
  | [] => none
  | '#' :: _ => none
  | text =>
      match Unicode.trimBy (· == '/') text with
      | [] => none
      | pattern => some pattern

/-- The globs of a pattern: for the path itself and for everything below it. -/
def globsOf (pattern : List Char) : List Glob :=
  [pattern, pattern ++ ['/', '*', '*']].filterMap Glob.parse?

/-- The exclusions of an ignore file. -/
def ofText (text : String) : Exclusion :=
  let globs := ((Text.lines text.toList).filterMap patternOf?).flatMap globsOf
  if Glob.areUsable globs then { globs } else {}

/-- Whether a path is excluded; the empty path never is. -/
def excludes (exclusion : Exclusion) (path : String) : Bool :=
  !path.isEmpty && exclusion.globs.any (·.isMatch path)

end Exclusion

end FeatureRefs
