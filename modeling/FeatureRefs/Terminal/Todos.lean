import FeatureRefs.Terminal.Style
import FeatureRefs.Text.Listing
import FeatureRefs.Todo.Report

/-!
# TODO reports on a terminal

A row shows the place of the entry, the status of its feature and the browsers that support it. How
many features are unknown is said at the end.
-/

namespace FeatureRefs.Terminal

/-- The colour of a status. -/
def statusColour : Icon → Colour
  | .widely => .green
  | .newly => .cyan
  | .limited => .yellow

/-- The feature of a row and its status. -/
def todoStatus (row : TodoRow) : String :=
  match row.feature with
  | some f => bold f.name ++ " - " ++ coloured (statusColour f.status.icon) f.status.label
  | none => coloured .red "unknown feature"

/-- The browsers that support the feature of a row, on a line of their own. -/
def todoSupport (row : TodoRow) : String :=
  let supported := row.support.filterMap fun cell =>
    cell.version.map fun version => cell.browserName ++ " " ++ version
  if supported.isEmpty then "" else "    " ++ dimmed (Text.commaList supported) ++ "\n"

/-- A row. -/
def renderTodo (row : TodoRow) : String :=
  coloured .yellow row.entry.featureId ++ " " ++ row.entry.path.text ++ ":" ++
    toString row.entry.lineNumber ++ "\n    " ++ todoStatus row ++ "\n" ++ todoSupport row

/-- A report. -/
def renderTodos (report : TodoReport) : String :=
  if report.isEmpty then
    dimmed Text.noItems ++ "\n"
  else
    let unknown := report.unknown.length
    bold "##" ++ " Baseline TODOs (" ++ toString report.size ++ ")\n\n" ++
      String.join (report.rows.map renderTodo) ++
      if unknown = 0 then ""
      else "\n" ++ strong .red "!" ++ " " ++ toString unknown ++
        " TODO(s) reference unknown features\n"

end FeatureRefs.Terminal
