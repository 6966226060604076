import FeatureRefs.Json.Record
import FeatureRefs.Text.Quoted
import FeatureRefs.Uri.Parser

/-!
# Shapes of JSON values

A shape tells what a value must be. Reading a value by a shape gives the value back with its records written
by name, or says in words what is wrong first. The members of an object are looked at in the order of their
names, and what is missing is told after what is wrong. Members that a record does not know are left out.
-/

namespace FeatureRefs.Json

/-- The integers that fit a number of bits. -/
structure IntegerKind where
  name : String
  low : Int
  high : Int
deriving Repr, DecidableEq

/-- The integers of 32 bits without a sign. -/
def IntegerKind.unsigned : IntegerKind := ⟨"u32", 0, 0xFFFFFFFF⟩

/-- The integers of 32 bits with a sign. -/
def IntegerKind.signed : IntegerKind := ⟨"i32", -0x80000000, 0x7FFFFFFF⟩

/-- Whether an integer is of a kind. -/
def IntegerKind.contains (kind : IntegerKind) (n : Int) : Bool :=
  kind.low ≤ n && n ≤ kind.high

/-- What a value must be. -/
inductive Shape where
  | any
  | text
  | flag
  | integer (kind : IntegerKind)
  | uri
  /-- A number or a text that stands for something under way. -/
  | token
  /-- One of some texts. -/
  | choice (names : List String)
  | list (item : Shape)
  /-- A member that may be null or missing. -/
  | optional (shape : Shape)
  /-- A member that may be missing. -/
  | omissible (shape : Shape)
  /-- A record, written by name or by position. -/
  | record (name : String) (fields : List (String × Shape))
  /-- A record, written by name, that has the members of other records besides its own. -/
  | merged (name : String) (fields : List (String × Shape)) (parts : List Shape)

/-! ## What is wrong -/

/-- What a value is, in words. -/
def Value.description : Value → String
  | .null => "null"
  | .bool b => "boolean `" ++ toString b ++ "`"
  | .number n =>
      match (Value.number n).int? with
      | some n => "integer `" ++ toString n ++ "`"
      | none =>
          let isPlain := n.fraction.isEmpty && n.exponent.isNone
          "floating point `" ++ n.toText ++ (if isPlain then ".0`" else "`")
  | .string s => "string " ++ Text.quoted s
  | .array _ => "sequence"
  | .object _ => "map"

/-- What is said of a value of another kind. -/
def wrongType (value : Value) (expected : String) : String :=
  "invalid type: " ++ value.description ++ ", expected " ++ expected

/-- What is said of a value that is out of bounds. -/
def wrongValue (value : Value) (expected : String) : String :=
  "invalid value: " ++ value.description ++ ", expected " ++ expected

/-- What is said of a member that is missing. -/
def missingField (name : String) : String :=
  "missing field `" ++ name ++ "`"

/-- A number of elements, in words. -/
def elementCount (count : Nat) : String :=
  toString count ++ (if count = 1 then " element" else " elements")

/-- What is said of an array that is too short for a record. -/
def tooShort (length : Nat) (name : String) (count : Nat) : String :=
  "invalid length " ++ toString length ++ ", expected struct " ++ name ++ " with " ++ elementCount count

/-- What is said of an array that is too long for a record. -/
def tooLong (length : Nat) : String :=
  "invalid length " ++ toString length ++ ", expected fewer elements in array"

/-- What is said of a text that is none of some texts. -/
def unknownChoice (text : String) (names : List String) : String :=
  let listed := ", ".intercalate (names.map fun name => "`" ++ name ++ "`")
  "unknown variant `" ++ text ++ "`, expected one of " ++ listed

/-- What is said of a value that is neither a number nor a text. -/
def noToken : String :=
  "data did not match any variant of untagged enum NumberOrString"

/-! ## Reading -/

namespace Shape

/-- Whether a member of a shape must be there. -/
def isRequired : Shape → Bool
  | .optional _ | .omissible _ => false
  | _ => true

/-- Whether a member of a shape must be there where it is told by its position. -/
def isPlaceRequired : Shape → Bool
  | .omissible _ => false
  | _ => true

/-- Reads an integer. -/
def readInteger (kind : IntegerKind) (value : Value) : Except String Value :=
  match value.int? with
  | none => .error (wrongType value kind.name)
  | some n => if kind.contains n then .ok value else .error (wrongValue value kind.name)

/-- Reads a URI. -/
def readUri : Value → Except String Value
  | .string s =>
      match Uri.parse s with
      | .ok _ => .ok (.string s)
      | .error e => .error (e.message ++ ": " ++ Text.quoted s)
  | value => .error (wrongType value "a string representing an URL")

/-- Reads a number or a text. -/
def readToken (value : Value) : Except String Value :=
  let isNumber := value.int?.any IntegerKind.signed.contains
  if isNumber || value.text?.isSome then .ok value else .error noToken

/-- Reads one of some texts. -/
def readChoice (names : List String) : Value → Except String Value
  | .string s => if names.contains s then .ok (.string s) else .error (unknownChoice s names)
  | value => .error (wrongType value "string or map")

/-- The members of an object in the order of their names; of members with the same name the last one
counts. -/
def orderedMembers (members : List (String × Value)) : List (String × Value) :=
  (tableOf members).mergeSort fun a b => decide (a.1 ≤ b.1)

/-- Reads the members that `read` knows. -/
def readKnown (read : String → Value → Option (Except String Value)) :
    List (String × Value) → Except String (List (String × Value))
  | [] => .ok []
  | (name, value) :: members =>
      match read name value with
      | none => readKnown read members
      | some result => do
          let value ← result
          let others ← readKnown read members
          return (name, value) :: others

/-- Checks that what must be there was found. -/
def checkFields (fields : List (String × Shape)) (found : List (String × Value)) :
    Except String (List (String × Value)) :=
  match fields.find? fun field => field.2.isRequired && (found.lookup field.1).isNone with
  | some field => .error (missingField field.1)
  | none => .ok found

mutual

/-- Reads a value. -/
def read : Shape → Value → Except String Value
  | .any, value => .ok value
  | .text, value =>
      match value with
      | .string s => .ok (.string s)
      | value => .error (wrongType value "a string")
  | .flag, value =>
      match value with
      | .bool b => .ok (.bool b)
      | value => .error (wrongType value "a boolean")
  | .integer kind, value => readInteger kind value
  | .uri, value => readUri value
  | .token, value => readToken value
  | .choice names, value => readChoice names value
  | .list item, value =>
      match value with
      | .array items => (items.mapM fun value => item.read value).map .array
      | value => .error (wrongType value "a sequence")
  | .optional shape, value =>
      match value with
      | .null => .ok .null
      | value => shape.read value
  | .omissible shape, value => shape.read value
  | .record name fields, value =>
      match value with
      | .object members => do
          let found ← readKnown (readField fields) (orderedMembers members)
          return .object (← checkFields fields found)
      | .array items => do
          let found ← readPlaces name fields.length 0 fields items
          return .object found
      | value => .error (wrongType value ("struct " ++ name))
  | .merged name fields parts, value =>
      match value with
      | .object members => do
          let found ← readKnown (readField fields) (orderedMembers members)
          let own ← checkFields fields found
          return .object (own ++ (← readParts parts value))
      | value => .error (wrongType value ("struct " ++ name))

/-- Reads a member, if a record has one of its name. -/
def readField : List (String × Shape) → String → Value → Option (Except String Value)
  | [], _, _ => none
  | (name, shape) :: fields, key, value =>
      if name == key then some (shape.read value) else readField fields key value

/-- Reads the items of an array for the fields of a record from a place on. -/
def readPlaces (name : String) (count place : Nat) :
    List (String × Shape) → List Value → Except String (List (String × Value))
  | [], [] => .ok []
  | [], items => .error (tooLong (place + items.length))
  | (_, shape) :: fields, [] =>
      if shape.isPlaceRequired then .error (tooShort place name count)
      else readPlaces name count place fields []
  | (key, shape) :: fields, item :: items => do
      let value ← shape.read item
      let others ← readPlaces name count (place + 1) fields items
      return (key, value) :: others

/-- Reads the members of other records. -/
def readParts : List Shape → Value → Except String (List (String × Value))
  | [], _ => .ok []
  | part :: parts, value => do
      let found ← part.read value
      let others ← readParts parts value
      match found with
      | .object members => return members ++ others
      | _ => return others

end

end Shape

end FeatureRefs.Json
