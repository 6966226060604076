import FeatureRefs.Text.Split

/-!
# The segments of a path

A path is a list of segments, each behind a slash. A dot stands for the place that is reached already, and two
dots lead one segment back; either dot may be percent encoded. A segment that begins like a drive, a letter
with a colon or a bar, is never left by two dots.
-/

namespace FeatureRefs.UriPath

/-- Whether a segment is a dot. -/
def isDot (segment : List Char) : Bool :=
  [".", "%2e"].any fun s => segment.map Char.toLower == s.toList

/-- Whether a segment is two dots. -/
def isDoubleDot (segment : List Char) : Bool :=
  ["..", "%2e.", ".%2e", "%2e%2e"].any fun s => segment.map Char.toLower == s.toList

/-- Whether a segment is a letter with a colon or a bar. -/
def isDrive : List Char → Bool
  | [c, mark] => c.isAlpha && (mark == ':' || mark == '|')
  | _ => false

/-- Whether a segment is a drive or begins with a drive and a backslash. -/
def beginsWithDrive (segment : List Char) : Bool :=
  isDrive (segment.takeWhile (· != '\\'))

/-- Goes one segment back; `above` are the segments so far, read backwards. -/
def goBack : List (List Char) → List (List Char)
  | [] => []
  | last :: above => if beginsWithDrive last then last :: above else above

/-- The segments that are left when all dots are followed. `above` are the segments so far, read backwards. A
path that ends in dots ends in a slash. -/
def resolve (above : List (List Char)) : List (List Char) → List (List Char)
  | [] => above.reverse
  | segment :: rest =>
      if isDoubleDot segment then
        resolve (if rest.isEmpty then [] :: goBack above else goBack above) rest
      else if isDot segment then
        resolve (if rest.isEmpty then [] :: above else above) rest
      else
        resolve (segment :: above) rest

/-- Segments without the empty ones at the beginning; the last one stays. -/
def trimEmpty : List (List Char) → List (List Char)
  | [] :: segment :: rest => trimEmpty (segment :: rest)
  | segments => segments

/-- Whether the first segment is a drive. -/
def startsAtDrive (segments : List (List Char)) : Bool :=
  segments.head?.any isDrive

/-- The segments of the path of a file: a drive at the beginning is written with a colon, and nothing empty
stands at the beginning. -/
def fileSegments : List (List Char) → List (List Char)
  | [c, mark] :: rest => if isDrive [c, mark] then [c, ':'] :: rest else [c, mark] :: rest
  | segments => trimEmpty segments

end FeatureRefs.UriPath
