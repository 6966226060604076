import FeatureRefs.Json.Printer
import FeatureRefs.Json.Record

/-!
# Calls

What is sent between an editor and a server is a call of a method or the response to one. A call with an id is
answered with the same id, which is a number, a text or null; a call without one is not answered. Names of
members must not be written twice.
-/

namespace FeatureRefs

open Json (Value)

/-- A call of a method. -/
structure Call where
  method : String
  id : Option Value := none
  params : Option Value := none

/-- What arrives. -/
inductive Arrival where
  | call (call : Call)
  /-- The response to a call of the server, which makes none. -/
  | response

namespace Call

/-- The version of the form of calls. -/
def version : String := "2.0"

/-- An integer that fits 64 bits with a sign. -/
def isSmallInteger (value : Value) : Bool :=
  value.int?.any (· ≤ 0x7FFFFFFFFFFFFFFF)

/-- Whether a value is an id. -/
def isId : Value → Bool
  | .null | .string _ => true
  | value => isSmallInteger value

/-- Whether fields name the version. -/
def hasVersion (fields : List (String × Value)) : Bool :=
  (fields.lookup "jsonrpc").bind Value.text? == some version

/-- Reads a call. -/
def ofJson? (value : Value) : Option Call := do
  let fields ← value.unrepeatedFields? ["jsonrpc", "method", "params", "id"]
  guard (hasVersion fields)
  let method ← Json.fieldD fields "method" "" Value.text?
  let id := fields.lookup "id"
  guard (id.all isId)
  return { method, id, params := fields.lookup "params" }

/-- Whether a value tells an error. -/
def isError (value : Value) : Bool :=
  let names := ["code", "message", "data"]
  let isKnown :=
    match value with
    | .object members => members.all fun m => names.contains m.1
    | _ => true
  match value.unrepeatedFields? names with
  | some fields =>
      isKnown && (fields.lookup "code").any isSmallInteger &&
        ((fields.lookup "message").bind Value.text?).isSome
  | none => false

/-- Whether a value is a response. -/
def isResponse : Value → Bool
  | .array _ => false
  | value =>
      match value.unrepeatedFields? ["jsonrpc", "id"] with
      | some fields =>
          hasVersion fields && (fields.lookup "id").any isId &&
            ((value.member? "result").isSome || (value.member? "error").any isError)
      | none => false

end Call

/-- Reads what arrives. -/
def Arrival.ofJson? (value : Value) : Option Arrival :=
  if Call.isResponse value then some .response else (Call.ofJson? value).map .call

end FeatureRefs
