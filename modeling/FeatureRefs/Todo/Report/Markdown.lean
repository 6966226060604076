import FeatureRefs.Todo.Report.Cells

/-!
# TODO reports in Markdown

A report is a table with a line for each row. A bar in the name of a feature is escaped, so that it
does not end the cell.
-/

namespace FeatureRefs

namespace Markdown

/-- A text in which every bar is escaped. -/
def escapeBars (text : String) : String :=
  String.ofList (text.toList.flatMap fun c => if c = '|' then ['\\', '|'] else [c])

/-- The status cell of a row. -/
def statusCell (row : TodoRow) : String :=
  match row.feature with
  | some f => f.status.label ++ " (" ++ escapeBars f.name ++ ")"
  | none => unknownFeature

/-- The location cell of a row. -/
def locationCell (row : TodoRow) : String :=
  "[" ++ row.entry.fileName ++ ":" ++ toString row.entry.lineNumber ++ "](" ++ row.fileUri ++ ")"

/-- The line of a row. -/
def rowLine (row : TodoRow) : String :=
  "| `" ++ row.entry.featureId ++ "` | " ++ statusCell row ++ " | " ++ locationCell row ++ " | " ++
    row.supportSummary ++ " |\n"

/-- The title of a report. -/
def title : String := "# Baseline TODOs\n\n"

/-- The two lines above the rows. -/
def tableHead : String :=
  "| Feature | Status | Location | Support |\n| --- | --- | --- | --- |\n"

end Markdown

/-- A report in Markdown. -/
def TodoReport.toMarkdown (report : TodoReport) : String :=
  if report.isEmpty then
    Markdown.title ++ "_" ++ Text.noItems ++ "_\n"
  else
    Markdown.title ++ Markdown.tableHead ++ String.join (report.rows.map Markdown.rowLine)

end FeatureRefs
