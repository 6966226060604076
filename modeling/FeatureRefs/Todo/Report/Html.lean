import FeatureRefs.Todo.Report.Cells

/-!
# TODO reports in HTML

A report is a page with a table. The characters that have a meaning in HTML are escaped in all texts
of a row, so a row cannot change the page around it.
-/

namespace FeatureRefs

namespace Html

/-- A character inside a text or an attribute. -/
def escapeChar (c : Char) : List Char :=
  if c = '&' then "&amp;".toList
  else if c = '<' then "&lt;".toList
  else if c = '>' then "&gt;".toList
  else if c = '"' then "&quot;".toList
  else [c]

/-- A text inside a text or an attribute. -/
def escape (text : String) : String :=
  String.ofList (text.toList.flatMap escapeChar)

/-- The class of a row's status. -/
def statusClass (row : TodoRow) : String :=
  match row.feature with
  | some f => f.status.icon.name
  | none => "unknown"

/-- The status of a row. -/
def statusText (row : TodoRow) : String :=
  match row.feature with
  | some f => escape f.status.label ++ " (" ++ escape f.name ++ ")"
  | none => unknownFeature

/-- The line of a row. -/
def rowLine (row : TodoRow) : String :=
  let line := toString row.entry.lineNumber
  "<tr><td><code>" ++ escape row.entry.featureId ++ "</code></td><td class=\"" ++
    statusClass row ++ "\">" ++ statusText row ++ "</td><td><a href=\"" ++ escape row.fileUri ++
    "#L" ++ line ++ "\">" ++ escape row.entry.fileName ++ ":" ++ line ++ "</a></td><td>" ++
    escape row.supportSummary ++ "</td></tr>\n"

/-- The styles of the page. -/
def styles : String :=
  "body \x7b font-family: system-ui, sans-serif; max-width: 960px; margin: 2rem auto; " ++
    "padding: 0 1rem; \x7d\n" ++
    "table \x7b border-collapse: collapse; width: 100%; \x7d\n" ++
    "td, th \x7b border-bottom: 1px solid #ddd; padding: 0.4rem; text-align: left; \x7d\n" ++
    ".widely \x7b color: green; \x7d\n" ++
    ".newly \x7b color: steelblue; \x7d\n" ++
    ".limited \x7b color: orange; \x7d\n" ++
    ".unknown \x7b color: red; \x7d\n"

/-- The page up to its content. -/
def pageHead : String :=
  "<!DOCTYPE html>\n<html>\n<head>\n<meta charset=\"utf-8\">\n<title>Baseline TODOs</title>\n" ++
    "<style>\n" ++ styles ++ "</style>\n</head>\n<body>\n<h1>Baseline TODOs</h1>\n"

/-- The end of the page. -/
def pageEnd : String := "</body>\n</html>\n"

/-- The table up to its rows. -/
def tableHead : String :=
  "<table>\n<tr><th>Feature</th><th>Status</th><th>Location</th><th>Support</th></tr>\n"

end Html

/-- A report in HTML. -/
def TodoReport.toHtml (report : TodoReport) : String :=
  if report.isEmpty then
    Html.pageHead ++ "<p>" ++ Text.noItems ++ "</p>\n" ++ Html.pageEnd
  else
    Html.pageHead ++ Html.tableHead ++ String.join (report.rows.map Html.rowLine) ++
      "</table>\n" ++ Html.pageEnd

end FeatureRefs
