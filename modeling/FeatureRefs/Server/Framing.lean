import FeatureRefs.Json.Printer
import FeatureRefs.Server.Connection

/-!
# Messages on a stream

A message is sent behind a header that tells its length in bytes. A text that is no JSON is refused, and
the answer has no id.
-/

namespace FeatureRefs

open Json (Value)

namespace Framing

/-- The name of the field of the header that tells the length. -/
def lengthField : List Char := "content-length".toList

/-- The length that a line of a header tells. -/
def lineLength? (line : String) : Option Nat :=
  let name := line.toList.takeWhile (· != ':')
  let value := Unicode.trimBy Unicode.isBlank ((line.toList.dropWhile (· != ':')).drop 1)
  if name.map Char.toLower = lengthField && !value.isEmpty && value.all Char.isDigit then
    some (value.foldl (fun n d => 10 * n + (d.toNat - '0'.toNat)) 0)
  else
    none

/-- The length that the lines of a header tell. -/
def length? (header : List String) : Option Nat :=
  header.findSome? lineLength?

/-- A message behind its header. -/
def frame (message : Value) : String :=
  let body := message.compact
  "Content-Length: " ++ toString body.utf8ByteSize ++ "\r\n\r\n" ++ body

/-- The answer to a text that is no message. -/
def parseError : Value :=
  .object [
    ("jsonrpc", .string "2.0"),
    ("error", .object [("code", .ofInt (-32700)), ("message", .string "Parse error")]),
    ("id", .null)]

/-- Reads a message. -/
def message? (text : String) : Option Value :=
  (Json.Document.parse? text).bind (·.toValue? nestingLimit)

end Framing

end FeatureRefs
