import FeatureRefs.Json.Value
import FeatureRefs.Server.Commands
import FeatureRefs.Server.Completion
import FeatureRefs.Todo.Report.Json

/-!
# Answers and notifications in JSON

What a server says is written as the editor protocol has it; what is missing is left out.
-/

namespace FeatureRefs

open Json (Value)

/-- A place in JSON. -/
def Position.toJson (p : Position) : Value :=
  .object [("line", .ofNat p.line), ("character", .ofNat p.character)]

/-- A stretch in JSON. -/
def Range.toJson (r : Range) : Value :=
  .object [("start", r.start.toJson), ("end", r.stop.toJson)]

/-- Markdown in JSON. -/
def markdownToJson (text : String) : Value :=
  .object [("kind", .string "markdown"), ("value", .string text)]

/-- The number of the severity of an error. -/
def errorSeverity : Nat := 1

/-- The name under which diagnostics are told. -/
def diagnosticSource : String := "baseline"

/-- A diagnostic in JSON. -/
def Diagnostic.toJson (d : Diagnostic) : Value :=
  .object [
    ("range", d.range.toJson),
    ("severity", .ofNat errorSeverity),
    ("code", .string code),
    ("source", .string diagnosticSource),
    ("message", .string d.message)]

/-- A hover in JSON. -/
def Hover.toJson (h : Hover) : Value :=
  .object [("contents", markdownToJson h.markdown), ("range", h.range.toJson)]

/-- The number of the kind of an item that stands for a value. -/
def valueItemKind : Nat := 12

/-- A completion item in JSON. -/
def CompletionItem.toJson (item : CompletionItem) : Value :=
  .object [
    ("label", .string item.featureId),
    ("kind", .ofNat valueItemKind),
    ("detail", .string item.name),
    ("documentation", markdownToJson item.documentation),
    ("sortText", .string item.sortText),
    ("filterText", .string item.featureId),
    ("textEdit", .object [
      ("range", item.range.toJson),
      ("newText", .string item.newText)])]

/-- Completion items in JSON; where nothing is offered there is no list. -/
def completionToJson (items : List CompletionItem) : Value :=
  if items.isEmpty then .null else .array (items.map CompletionItem.toJson)

/-- A candidate in JSON. -/
def Candidate.toJson (c : Candidate) : Value :=
  .object [
    ("id", .string c.id),
    ("name", .string c.name),
    ("description", .string c.description),
    ("description_html", .string c.descriptionHtml),
    ("status_label", .string c.statusLabel)]

/-- What a command answers, in JSON. -/
def CommandResult.toJson : CommandResult → Value
  | .nothing => .null
  | .candidates found => .array (found.map Candidate.toJson)
  | .report todos => todos.toJson
  | .features count => .object [("features", .ofNat count)]

/-- The number of a kind of message. -/
def MessageKind.number : MessageKind → Nat
  | .error => 1
  | .info => 3

/-- A message in JSON. -/
def messageToJson (kind : MessageKind) (text : String) : Value :=
  .object [("type", .ofNat kind.number), ("message", .string text)]

/-- The method of a notification. -/
def Notification.method : Notification → String
  | .diagnostics .. => "textDocument/publishDiagnostics"
  | .showMessage .. => "window/showMessage"
  | .logMessage .. => "window/logMessage"

/-- The parameters of a notification in JSON. -/
def Notification.params : Notification → Value
  | .diagnostics uri found version =>
      .object ([
        ("uri", .string uri),
        ("diagnostics", .array (found.map Diagnostic.toJson))] ++
        version.toList.map fun version => ("version", .ofInt version))
  | .showMessage kind text => messageToJson kind text
  | .logMessage kind text => messageToJson kind text

/-- The name of the program. -/
def programName : String := "baseline"

/-- The version of the program. -/
def programVersion : String := "1.0.0"

/-- What a server can do, in JSON. Documents are sent whole. -/
def setupResult : Value :=
  .object [
    ("capabilities", .object [
      ("textDocumentSync", .object [
        ("openClose", .bool true), ("change", .ofNat 1), ("save", .bool true)]),
      ("hoverProvider", .bool true),
      ("completionProvider", .object [
        ("triggerCharacters", .array (["/", "=", "\"", "'"].map .string))]),
      ("executeCommandProvider", .object [
        ("commands", .array (Command.names.map .string))])]),
    ("serverInfo", .object [
      ("name", .string programName), ("version", .string programVersion)])]

end FeatureRefs
