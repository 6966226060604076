import FeatureRefs.Terminal.Todos
import FeatureRefs.Todo.Report.Html
import FeatureRefs.Todo.Report.Json
import FeatureRefs.Todo.Report.Markdown

/-!
# Formats of a TODO report
-/

namespace FeatureRefs

/-- A format in which a report can be written. -/
inductive ReportFormat where
  /-- For reading on a terminal. -/
  | text
  | json
  | markdown
  | html
deriving Repr, DecidableEq

/-- The format of a name. -/
def ReportFormat.ofName? : String → Option ReportFormat
  | "text" => some .text
  | "json" => some .json
  | "markdown" => some .markdown
  | "md" => some .markdown
  | "html" => some .html
  | _ => none

/-- A report in a format. -/
def TodoReport.render (report : TodoReport) : ReportFormat → String
  | .text => Terminal.renderTodos report
  | .json => report.toJson.pretty
  | .markdown => report.toMarkdown
  | .html => report.toHtml

end FeatureRefs
