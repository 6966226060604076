/-!
# Lists in words

What stands for a list without items, and how the items of a short list are put on one line.
-/

namespace FeatureRefs.Text

/-- What stands for a list without items. -/
def noItems : String := "No items found"

/-- Items on one line, with commas between them. -/
def commaList (items : List String) : String :=
  ", ".intercalate items

end FeatureRefs.Text
