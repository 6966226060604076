import FeatureRefs.Diagnostic
import FeatureRefs.Files.Path
import FeatureRefs.Terminal.Style

/-!
# Diagnostics on a terminal

A diagnostic is shown with its place, counted from one, and the line that it is on.
-/

namespace FeatureRefs.Terminal

/-- The source line of a diagnostic, if the text has it. -/
def sourceLine (lines : List (List Char)) (d : Diagnostic) : String :=
  match lines[d.range.start.line]? with
  | some line => "   " ++ coloured .blue "|" ++ " " ++ String.ofList line ++ "\n"
  | none => ""

/-- The headline of a diagnostic and its place. -/
def diagnosticHead (path : Path) (d : Diagnostic) : String :=
  strong .red "error" ++ "[" ++ Diagnostic.code ++ "]: " ++ bold d.headline ++ "\n  " ++
    coloured .blue "-->" ++ " " ++ path.text ++ ":" ++ toString (d.range.start.line + 1) ++ ":" ++
    toString (d.range.start.character + 1) ++ "\n"

/-- The diagnostics of a file with the given text. -/
def renderDiagnostics (path : Path) (text : String) (diagnostics : List Diagnostic) : String :=
  let lines := Text.lines text.toList
  String.join (diagnostics.map fun d => diagnosticHead path d ++ sourceLine lines d)

end FeatureRefs.Terminal
