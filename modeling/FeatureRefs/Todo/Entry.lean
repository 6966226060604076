import FeatureRefs.Text.Lines
import FeatureRefs.Files.Path
import FeatureRefs.Todo.Marker

/-!
# TODO entries

An entry is a TODO marker found in a file. A line has at most one entry, its first marker.
-/

namespace FeatureRefs

/-- A TODO marker found in a file. -/
structure TodoEntry where
  /-- The id as it is written. -/
  featureId : String
  fileName : String
  path : Path
  /-- The number of the line, counted from one. -/
  lineNumber : Nat
deriving Repr, DecidableEq

/-- The entries of lines that are numbered from `first` on. -/
def todoEntriesFrom (path : Path) (first : Nat) (lines : List (List Char)) : List TodoEntry :=
  (lines.zipIdx first).filterMap fun (line, n) =>
    (todoMarker line).map fun id => ⟨id, path.fileName, path, n⟩

/-- The entries of a file with the given text. -/
def extractTodos (path : Path) (text : String) : List TodoEntry :=
  todoEntriesFrom path 1 (Text.lines text.toList)

end FeatureRefs
