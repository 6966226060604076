import FeatureRefs.Text.Hex
import FeatureRefs.Text.Split
import FeatureRefs.Unicode.Ranges

/-!
# Tables written as text

A large table of code points is written as text: blanks and line ends separate its entries, and an entry is
made up of hexadecimal numbers with some mark between them. An entry of a table of ranges is a single code
point or has the ends of a range.
-/

namespace FeatureRefs.Unicode

/-- The numbers of an entry. -/
def entryNumbers (entry : List Char) : List Nat :=
  (Text.split (fun c => (Text.hexValue? c).isNone) entry).map Text.hexNumber

/-- The entries of a table. -/
def tableEntries (text : String) : List (List Nat) :=
  let words := Text.split (fun c => c == ' ' || c == '\n') text.toList
  (words.filter (!·.isEmpty)).map entryNumbers

/-- The range that an entry stands for. -/
def rangeOfEntry : List Nat → Nat × Nat
  | first :: last :: _ => (first, last)
  | [code] => (code, code)
  | [] => (0, 0)

/-- The table of ranges that a text stands for. -/
def CodeRanges.ofText (text : String) : CodeRanges :=
  (tableEntries text).map rangeOfEntry

end FeatureRefs.Unicode
