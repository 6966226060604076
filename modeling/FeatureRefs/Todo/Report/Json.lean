import FeatureRefs.Json.Printer
import FeatureRefs.Todo.Report

/-!
# TODO reports in JSON

A report is a record with the list of its rows. Programs read it, so nothing is put in words here.
-/

namespace FeatureRefs

open Json (Value)

/-- A support cell in JSON. -/
def SupportCell.toJson (cell : SupportCell) : Value :=
  .object [
    ("browser", .string cell.browser.key),
    ("browser_name", .string cell.browserName),
    ("version", .ofOption .string cell.version),
    ("release_date", .ofOption .string cell.releaseDate)]

/-- A feature summary in JSON. -/
def FeatureSummary.toJson (summary : FeatureSummary) : Value :=
  .object [
    ("name", .string summary.name),
    ("status_label", .string summary.status.label),
    ("icon", .string summary.status.icon.name)]

/-- A row in JSON. -/
def TodoRow.toJson (row : TodoRow) : Value :=
  .object [
    ("feature_id", .string row.entry.featureId),
    ("file_name", .string row.entry.fileName),
    ("file_path", .string row.entry.path.text),
    ("file_uri", .string row.fileUri),
    ("line_number", .ofNat row.entry.lineNumber),
    ("feature", .ofOption FeatureSummary.toJson row.feature),
    ("support", .array (row.support.map SupportCell.toJson))]

/-- A report in JSON. -/
def TodoReport.toJson (report : TodoReport) : Value :=
  .object [("rows", .array (report.rows.map TodoRow.toJson))]

end FeatureRefs
