import FeatureRefs.Server.Commands
import FeatureRefs.Server.Method
import FeatureRefs.Server.Setup

/-!
# Messages

What an editor tells a server or asks it for. A message is read from a method and its parameters, which have
the shape of the method already: its records are written by name.
-/

namespace FeatureRefs

open Json (Value)

/-- What an editor asks for or tells. -/
inductive Message where
  | setUp (params : SetupParams)
  | ready
  | shutdown
  | exit
  | opened (uri : Uri) (document : TextDocument)
  | changed (uri : Uri) (version : Int) (texts : List String)
  | saved (uri : Uri)
  | closed (uri : Uri)
  | hover (uri : Uri) (position : Position)
  | complete (uri : Uri) (position : Position)
  | execute (name : String) (arguments : List Value)

/-- The URI of an object of a message. -/
def uriOf? (value : Value) : Option Uri := do
  (Uri.parse (← (← value.member? "uri").text?)).toOption

/-- A member that is neither missing nor null. -/
def presentMember? (value : Value) (key : String) : Option Value :=
  match value.member? key with
  | some .null => none
  | member => member

/-- Reads what the editor says at the beginning. -/
def SetupParams.ofJson? (value : Value) : Option SetupParams := do
  let rootUri ←
    match presentMember? value "rootUri" with
    | none => some none
    | some uri => do
        let uri ← (Uri.parse (← uri.text?)).toOption
        some (some uri)
  let workspaceFolders ←
    match presentMember? value "workspaceFolders" with
    | none => some []
    | some folders => folders.items?.bind fun items => items.mapM uriOf?
  return { rootUri, workspaceFolders, options := presentMember? value "initializationOptions" }

namespace Message

/-- The URI of the document that a message is about. -/
def documentUri? (params : Value) : Option Uri :=
  (params.member? "textDocument").bind uriOf?

/-- A number among the members of an object. -/
def numberOf? (key : String) (value : Value) : Option Nat :=
  (value.member? key).bind Value.nat?

/-- The place that a message is about. -/
def position? (params : Value) : Option Position := do
  let position ← params.member? "position"
  return ⟨← numberOf? "line" position, ← numberOf? "character" position⟩

/-- The version of the document that a message is about. -/
def version? (params : Value) : Option Int := do
  ((← params.member? "textDocument").member? "version").bind Value.int?

/-- Reads a document that is opened. -/
def opened? (params : Value) : Option Message := do
  let text ← ((← params.member? "textDocument").member? "text").bind Value.text?
  return .opened (← documentUri? params) ⟨← version? params, text⟩

/-- Reads the change of a document. -/
def changed? (params : Value) : Option Message := do
  let changes ← (params.member? "contentChanges").bind Value.items?
  let texts ← changes.mapM fun change => (change.member? "text").bind Value.text?
  return .changed (← documentUri? params) (← version? params) texts

/-- Reads a command. -/
def execute? (params : Value) : Option Message := do
  let name ← (params.member? "command").bind Value.text?
  let arguments := ((params.member? "arguments").bind Value.items?).getD []
  return .execute name arguments

/-- Reads a message of a method that is carried out. -/
def ofParams? (method : String) (params : Value) : Option Message :=
  match method with
  | "initialize" => (SetupParams.ofJson? params).map .setUp
  | "initialized" => some .ready
  | "shutdown" => some .shutdown
  | "textDocument/didOpen" => opened? params
  | "textDocument/didChange" => changed? params
  | "textDocument/didSave" => (documentUri? params).map .saved
  | "textDocument/didClose" => (documentUri? params).map .closed
  | "textDocument/hover" => do return .hover (← documentUri? params) (← position? params)
  | "textDocument/completion" => do return .complete (← documentUri? params) (← position? params)
  | "workspace/executeCommand" => execute? params
  | _ => none

end Message

end FeatureRefs
