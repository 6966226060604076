import FeatureRefs.Server.Call
import FeatureRefs.Server.Documents
import FeatureRefs.Server.Json
import FeatureRefs.Server.Message

/-!
# A connection to an editor

A connection is set up by the first request; before that and after it was shut down other calls are refused.
Whether a method is known is looked at first, then how far the connection has come, and then the parameters. A
call without an id is not answered, so nobody is told when it is refused.
-/

namespace FeatureRefs

open Json (Value)

/-- Why a call is refused. -/
inductive Refusal where
  | notInitialized
  | invalidRequest
  | unknownMethod (name : String)
  /-- The method is known and nothing is done for it. -/
  | idleMethod
  | invalidParams (text : String)
  | unknownCommand (name : String)
deriving Repr, DecidableEq

namespace Refusal

/-- The number of a refusal. -/
def code : Refusal → Int
  | notInitialized => -32002
  | invalidRequest => -32600
  | unknownMethod _ | idleMethod => -32601
  | invalidParams _ | unknownCommand _ => -32602

/-- A refusal in words. -/
def message : Refusal → String
  | notInitialized => "Server not initialized"
  | invalidRequest => "Invalid request"
  | unknownMethod _ | idleMethod => "Method not found"
  | invalidParams text => text
  | unknownCommand name => "unknown command: " ++ name

/-- A refusal in JSON. A method that is not known is named. -/
def toJson (refusal : Refusal) : Value :=
  let data : List (String × Value) :=
    match refusal with
    | unknownMethod name => [("data", .string name)]
    | _ => []
  .object ([("code", .ofInt refusal.code), ("message", .string refusal.message)] ++ data)

end Refusal

/-! ## Answering messages -/

/-- What became of a message: the server, the answer if the message is a request, and what is told. -/
structure Reply where
  server : Server
  answer : Except Refusal Value := .ok .null
  told : List Notification := []

/-- Answers a message. -/
def Server.handle (server : Server) (files : Files) : Message → Reply
  | .setUp params => { server := server.setUp files params, answer := .ok setupResult }
  | .ready => { server, told := server.greeting }
  | .shutdown => { server := server.shutDown }
  | .exit => { server }
  | .opened uri document =>
      let (server, told) := server.openDocument uri.text document
      { server, told }
  | .changed uri version texts =>
      let (server, told) := server.changeDocument uri.text version texts
      { server, told }
  | .saved uri => { server, told := server.saveDocument uri.text }
  | .closed uri =>
      let (server, told) := server.closeDocument uri.text
      { server, told }
  | .hover uri position =>
      { server, answer := .ok (.ofOption Hover.toJson (server.hover uri.text position)) }
  | .complete uri position =>
      { server, answer := .ok (completionToJson (server.complete uri.text position)) }
  | .execute name arguments =>
      match Command.ofName? name arguments with
      | none => { server, answer := .error (.unknownCommand name) }
      | some command =>
          let (server, result, told) := server.execute files command
          { server, answer := .ok result.toJson, told }

/-! ## What becomes of a call -/

/-- How far a connection has come. -/
inductive Stage where
  | fresh
  | ready
  | shutDown
  | exited
deriving Repr, DecidableEq

/-- What becomes of a call. -/
inductive Verdict where
  | carryOut (message : Message)
  | refuse (reason : Refusal)
  | passOver

namespace Stage

/-- Why a call of a method is refused at a stage. Only the first request comes before the connection is set
up. -/
def refusal? (stage : Stage) (method : String) : Option Refusal :=
  if method == "initialize" then
    if stage = .fresh then none else some .invalidRequest
  else
    match stage with
    | .fresh => some .notInitialized
    | .ready => none
    | .shutDown | .exited => some .invalidRequest

/-- Reads the parameters of a method. -/
def readParams (method : Method) (params : Option Value) : Except Refusal Value :=
  match method.params, params with
  | none, none => .ok .null
  | none, some params => .error (.invalidParams ("Unexpected params: " ++ params.sorted.compact))
  | some _, none => .error (.invalidParams "Missing params field")
  | some shape, some params => (shape.read params).mapError .invalidParams

/-- What becomes of a call of a method that is known. An id makes a request, and nothing else does. -/
def verdictOfMethod (stage : Stage) (call : Call) (method : Method) : Verdict :=
  match stage.refusal? call.method with
  | some reason => .refuse reason
  | none =>
      if method.isRequest != call.id.isSome then .refuse .invalidRequest
      else
        match readParams method call.params with
        | .error reason => .refuse reason
        | .ok params =>
            match Message.ofParams? call.method params with
            | some message => .carryOut message
            | none => .refuse .idleMethod

/-- Whether nobody needs to know a method. -/
def isOptionalMethod (name : String) : Bool :=
  "$/".toList.isPrefixOf name.toList

/-- What becomes of a call. -/
def verdict (stage : Stage) (call : Call) : Verdict :=
  if call.method == "exit" then .carryOut .exit
  else if call.method == "$/cancelRequest" then .refuse .invalidRequest
  else
    match Method.ofName? call.method with
    | some method => stage.verdictOfMethod call method
    | none =>
        if isOptionalMethod call.method then .passOver else .refuse (.unknownMethod call.method)

/-- The stage behind a call. A connection is set up only if the call is carried out, and shut down in any
case. -/
def next (stage : Stage) (call : Call) : Stage :=
  match call.method, stage with
  | "exit", _ => .exited
  | "shutdown", .ready => .shutDown
  | "initialize", .fresh => if stage.verdict call matches .carryOut _ then .ready else .fresh
  | _, stage => stage

end Stage

/-! ## Connections -/

/-- A connection to an editor. -/
structure Connection where
  server : Server
  stage : Stage := .fresh

namespace Connection

/-- A notification as a message. -/
def notificationToJson (notification : Notification) : Value :=
  .object [
    ("jsonrpc", .string Call.version),
    ("method", .string notification.method),
    ("params", notification.params)]

/-- The answer to a call as a message. -/
def answerToJson (id : Value) (answer : Except Refusal Value) : Value :=
  let outcome : String × Value :=
    match answer with
    | .ok result => ("result", result)
    | .error refusal => ("error", refusal.toJson)
  .object [("jsonrpc", .string Call.version), outcome, ("id", id)]

/-- What is to be carried out for a message that arrives. -/
def pending? (connection : Connection) (value : Value) : Option Message :=
  match Arrival.ofJson? value with
  | some (.call call) =>
      match connection.stage.verdict call with
      | .carryOut message => some message
      | _ => none
  | _ => none

/-- Takes a call and gives the messages to send. Telling to exit is not answered. -/
def take (connection : Connection) (files : Files) (call : Call) : Connection × List Value :=
  let stage := connection.stage.next call
  match connection.stage.verdict call with
  | .passOver => ({ connection with stage }, [])
  | .refuse reason =>
      ({ connection with stage }, call.id.toList.map (answerToJson · (.error reason)))
  | .carryOut .exit => ({ connection with stage }, [])
  | .carryOut message =>
      let reply := connection.server.handle files message
      ({ server := reply.server, stage },
        reply.told.map notificationToJson ++ call.id.toList.map (answerToJson · reply.answer))

/-- Answers a message that arrives, and gives the messages to send. One that is no message ends the
connection. -/
def receive (connection : Connection) (files : Files) (value : Value) :
    Connection × List Value :=
  if connection.stage = .exited then (connection, [])
  else
    match Arrival.ofJson? value with
    | some (.call call) => connection.take files call
    | some .response => (connection, [])
    | none =>
        ({ connection with stage := .exited }, [answerToJson .null (.error .invalidRequest)])

end Connection

end FeatureRefs
