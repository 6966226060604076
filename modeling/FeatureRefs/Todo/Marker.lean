import FeatureRefs.Unicode.Word
import FeatureRefs.Reference.Basic

/-!
# TODO markers

A marker is `TODO(baseline/ID)`, in exactly this case, at the beginning of a word. Its id consists of
ASCII letters, digits and hyphens and neither begins nor ends with a hyphen.
-/

namespace FeatureRefs

/-- The characters of a marker's id. -/
def isMarkerIdChar (c : Char) : Bool :=
  c.isAlphanum || c == '-'

/-- The head of a marker. -/
def markerKeyword : List Char := "TODO(baseline/".toList

/-- Whether a marker's id begins and ends with a letter or digit. -/
def isMarkerId (id : List Char) : Bool :=
  match id.head?, id.getLast? with
  | some first, some last => first.isAlphanum && last.isAlphanum
  | _, _ => false

/-- The id of a marker that begins right here. -/
def markerAt? (before text : List Char) : Option (List Char) :=
  let rest := text.drop markerKeyword.length
  let id := rest.takeWhile isMarkerIdChar
  if Unicode.isBoundary before text && markerKeyword.isPrefixOf text && isMarkerId id &&
      (rest.dropWhile isMarkerIdChar).head? == some ')' then
    some id
  else
    none

/-- The id of the first marker on a line, as it is written. -/
def todoMarker (line : List Char) : Option String :=
  (leftmost markerAt? [] line).map fun id => String.ofList id

end FeatureRefs
