import FeatureRefs.Json.Value

/-!
# Records in JSON

A record with named fields is written as an object or, by position, as an array of its fields in
their order, of which trailing ones may be left out. Members of other names are skipped. In a document
a field must not be written twice.
-/

namespace FeatureRefs.Json

/-- The fields of a record that are written by name. -/
def fieldsByName? {α : Type} (names : List String) (members : List (String × α)) :
    Option (List (String × α)) :=
  let known := members.filter fun m => names.contains m.1
  if (known.map (·.1)).Nodup then some known else none

/-- The fields of a record that are written by position. -/
def fieldsByPosition? {α : Type} (names : List String) (items : List α) :
    Option (List (String × α)) :=
  if items.length ≤ names.length then some (names.zip items) else none

/-- Adds a pair to a table in which the last pair written under a key counts. -/
def putLast {α : Type} (table : List (String × α)) (key : String) (value : α) :
    List (String × α) :=
  table.filter (fun entry => entry.1 != key) ++ [(key, value)]

/-- A table in which the last pair written under a key counts. -/
def tableOf {α : Type} (members : List (String × α)) : List (String × α) :=
  members.foldl (fun table m => putLast table m.1 m.2) []

namespace Document

/-- The members of an object all of whose keys are text. -/
def members? : Document → Option (List (String × Document))
  | .object members => members.mapM fun (key, value) => key.map (·, value)
  | _ => none

/-- The fields of a record. -/
def fields? (names : List String) : Document → Option (List (String × Document))
  | .array items => fieldsByPosition? names items
  | document => document.members?.bind (fieldsByName? names)

/-- The text that a document is, if it is one. -/
def text? : Document → Option String
  | .string text? => text?
  | _ => none

/-- Reads a document that may be null. -/
def optional? {α : Type} (read : Document → Option α) : Document → Option (Option α)
  | .null => some none
  | document => (read document).map some

end Document

namespace Value

mutual

/-- A value with the members of its objects in the order of their names. Of members with the same name the last
one counts. -/
def sorted : Value → Value
  | .array items => .array (sortedItems items)
  | .object members =>
      .object ((tableOf (sortedMembers members)).mergeSort fun a b => decide (a.1 ≤ b.1))
  | value => value

/-- The items of an array, each with its members in order. -/
def sortedItems : List Value → List Value
  | [] => []
  | item :: items => item.sorted :: sortedItems items

/-- The members of an object, each with its members in order. -/
def sortedMembers : List (String × Value) → List (String × Value)
  | [] => []
  | (name, value) :: members => (name, value.sorted) :: sortedMembers members

end

/-- The fields of a record. Of members with the same name the last one counts. -/
def fields? (names : List String) : Value → Option (List (String × Value))
  | .array items => fieldsByPosition? names items
  | .object members => fieldsByName? names (tableOf members)
  | _ => none

/-- The fields of a record, none of which may be written twice. -/
def unrepeatedFields? (names : List String) : Value → Option (List (String × Value))
  | .array items => fieldsByPosition? names items
  | .object members => fieldsByName? names members
  | _ => none

/-- Reads a value that may be null. -/
def optional? {α : Type} (read : Value → Option α) : Value → Option (Option α)
  | .null => some none
  | value => (read value).map some

end Value

/-- Reads a field, or takes its default where it is not written. -/
def fieldD {α β : Type} (fields : List (String × α)) (name : String) (default : β)
    (read : α → Option β) : Option β :=
  match fields.lookup name with
  | none => some default
  | some field => read field

/-- Reads a field that must be written. -/
def field? {α β : Type} (fields : List (String × α)) (name : String) (read : α → Option β) :
    Option β :=
  (fields.lookup name).bind read

end FeatureRefs.Json
