import FeatureRefs.Text.Listing
import FeatureRefs.Todo.Report

/-!
# Cells of a report table

What the tables of a report say of a row besides its id: the support by browsers, and a word for a
feature that is not registered.
-/

namespace FeatureRefs

/-- The status of a feature that is not registered. -/
def unknownFeature : String := "Unknown feature"

/-- A browser and the version since which it supports the feature. -/
def SupportCell.summary (cell : SupportCell) : String :=
  cell.browserName ++ " " ++ cell.version.getD unsupportedMark

/-- The support of the feature of a row by all browsers. -/
def TodoRow.supportSummary (row : TodoRow) : String :=
  Text.commaList (row.support.map SupportCell.summary)

end FeatureRefs
