import FeatureRefs.Json.Token

/-!
# JSON documents

A document keeps what is written: members of objects in order and with repetitions, numerals
unread, and strings that are not text as such. Which of this matters is up to the reader of the
document; a part that nobody reads need only be well formed.
-/

namespace FeatureRefs.Json

/-- A JSON document. -/
inductive Document where
  | null
  | bool (b : Bool)
  | number (n : Numeral)
  /-- A string, or `none` where its escapes do not make up text. -/
  | string (text? : Option String)
  | array (items : List Document)
  | object (members : List (Option String × Document))
deriving Repr

namespace Document

/-- An array or object whose end is still to come. What is complete of it is read backwards. -/
inductive Frame where
  | array (items : List Document)
  | object (members : List (Option String × Document))
  /-- An object behind a key and its colon. -/
  | member (members : List (Option String × Document)) (key : Option String)

/-- What may come next. -/
inductive Expectation where
  | value
  /-- The first item of an array, or its end. -/
  | valueOrClose
  | key
  /-- The first key of an object, or its end. -/
  | keyOrClose
  | colon (key : Option String)
  /-- A comma or the end of the innermost array or object. -/
  | separator
  /-- Nothing: the document is complete. -/
  | nothing (complete : Document)

/-- The state of reading: what surrounds the place, innermost first, and what may come next. -/
structure Reading where
  stack : List Frame
  next : Expectation

/-- Puts a complete value into the innermost array or object. -/
def Reading.close (value : Document) : List Frame → Option Reading
  | [] => some ⟨[], .nothing value⟩
  | .array items :: stack => some ⟨.array (value :: items) :: stack, .separator⟩
  | .member members key :: stack => some ⟨.object ((key, value) :: members) :: stack, .separator⟩
  | .object _ :: _ => none

/-- Reads a token where a value may stand. -/
def Reading.readValue (stack : List Frame) : Token → Option Reading
  | .null => close .null stack
  | .bool b => close (.bool b) stack
  | .number n => close (.number n) stack
  | .string text? => close (.string text?) stack
  | .openArray => some ⟨.array [] :: stack, .valueOrClose⟩
  | .openObject => some ⟨.object [] :: stack, .keyOrClose⟩
  | _ => none

/-- Reads a token that ends the innermost array or object. -/
def Reading.readClose : List Frame → Token → Option Reading
  | .array items :: stack, .closeArray => close (.array items.reverse) stack
  | .object members :: stack, .closeObject => close (.object members.reverse) stack
  | _, _ => none

/-- Reads a token. -/
def Reading.step (r : Reading) (token : Token) : Option Reading :=
  match r.next, r.stack, token with
  | .value, stack, token => readValue stack token
  | .valueOrClose, stack, token =>
      match readClose stack token with
      | some r => some r
      | none => readValue stack token
  | .key, stack, .string key => some ⟨stack, .colon key⟩
  | .keyOrClose, stack, .string key => some ⟨stack, .colon key⟩
  | .keyOrClose, stack, token => readClose stack token
  | .colon key, .object members :: stack, .colon => some ⟨.member members key :: stack, .value⟩
  | .separator, .array items :: stack, .comma => some ⟨.array items :: stack, .value⟩
  | .separator, .object members :: stack, .comma => some ⟨.object members :: stack, .key⟩
  | .separator, stack, token => readClose stack token
  | _, _, _ => none

/-- The document that tokens make up. -/
def ofTokens? (tokens : List Token) : Option Document :=
  match tokens.foldlM Reading.step ⟨[], .value⟩ with
  | some ⟨[], .nothing document⟩ => some document
  | _ => none

/-- Reads a text. -/
def parse? (text : String) : Option Document :=
  (Token.scan? text.toList).bind ofTokens?

end Document

end FeatureRefs.Json
