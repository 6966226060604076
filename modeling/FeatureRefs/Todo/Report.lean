import FeatureRefs.Unicode.Case
import FeatureRefs.Uri.File
import FeatureRefs.Registry.Support
import FeatureRefs.Todo.Entry

/-!
# TODO reports

A report has a row for every entry, in the order of the entries, with what the registry knows of the
feature. The id of an entry is looked up in lower case.
-/

namespace FeatureRefs

/-- What a row says of a registered feature. -/
structure FeatureSummary where
  name : String
  status : Status
deriving Repr, DecidableEq

/-- A row of a report. -/
structure TodoRow where
  entry : TodoEntry
  /-- The file as a URI. -/
  fileUri : String
  /-- The feature, if it is registered. -/
  feature : Option FeatureSummary
  /-- The support by browsers; no cells where the feature is not registered. -/
  support : List SupportCell
deriving Repr, DecidableEq

/-- What a row says of a feature. -/
def Feature.todoSummary (feature : Feature) : FeatureSummary :=
  ⟨feature.name, feature.status⟩

/-- The row of an entry. -/
def TodoRow.ofEntry (registry : Registry) (directory : Path) (entry : TodoEntry) : TodoRow :=
  let feature? := registry.get? (Unicode.lowercase entry.featureId)
  { entry := entry
    fileUri := (Uri.ofPath directory entry.path).text
    feature := feature?.map Feature.todoSummary
    support :=
      match feature? with
      | some feature => registry.supportCells feature
      | none => [] }

/-- A report on TODO entries. -/
structure TodoReport where
  rows : List TodoRow := []
deriving Repr, DecidableEq

namespace TodoReport

/-- The report on entries. Relative paths are taken from `directory`. -/
def ofEntries (registry : Registry) (directory : Path) (entries : List TodoEntry) : TodoReport :=
  ⟨entries.map (TodoRow.ofEntry registry directory)⟩

/-- The number of rows. -/
def size (report : TodoReport) : Nat :=
  report.rows.length

/-- Whether there are no rows. -/
def isEmpty (report : TodoReport) : Bool :=
  report.rows.isEmpty

/-- The rows whose feature is not registered. -/
def unknown (report : TodoReport) : List TodoRow :=
  report.rows.filter (·.feature.isNone)

end TodoReport

end FeatureRefs
