import FeatureRefs.Config.Basic
import FeatureRefs.Unicode.Blank
import FeatureRefs.Yaml.Node

/-!
# Configurations in YAML

A configuration is a mapping with the fields as keys, or nothing at all. Any scalar is taken as the text
that is written. A field that may be missing is missing where a plain scalar is empty or a null.
-/

namespace FeatureRefs.Config

open Yaml (Node)

/-- Whether a scalar is written as a null. -/
def isNullText (text : String) : Bool :=
  ["null", "Null", "NULL", "~"].contains text

/-- The tag of nulls. -/
def nullTag : Yaml.Tag := .ofChars "tag:yaml.org,2002:null".toList

/-- Reads a text. -/
def textOfYaml? (root node : Node) : Option String :=
  match root.resolve node with
  | .scalar text _ _ => some text
  | _ => none

/-- Reads a text that may be missing. A plain scalar with the tag of nulls must be one. -/
def optionalTextOfYaml? (root node : Node) : Option (Option String) :=
  match root.resolve node with
  | .scalar text isPlain tag =>
      if !isPlain then some (some text)
      else if tag = some nullTag then if isNullText text then some none else none
      else if tag.isNone && (text.isEmpty || isNullText text) then some none
      else some (some text)
  | _ => none

/-- Whether a node is an empty plain scalar. -/
def isMissing : Node → Bool
  | .scalar text isPlain _ => text.isEmpty && isPlain
  | _ => false

/-- Reads a list of texts. -/
def textsOfYaml? (root node : Node) : Option (List String) :=
  match root.resolve node with
  | .sequence items => items.mapM (textOfYaml? root)
  | node => if isMissing node then some [] else none

/-- The fields of a mapping; its keys must be texts, and no field may be written twice. -/
def fieldsOfYaml? (root node : Node) : Option (List (String × Node)) :=
  match root.resolve node with
  | .mapping members => do
      let members ← members.mapM fun (key, value) => (textOfYaml? root key).map (·, value)
      let known := members.filter fun m => fieldNames.contains m.1
      if (known.map (·.1)).Nodup then some known else none
  | node => if isMissing node then some [] else none

/-- Reads a field, or takes its default where it is not written. -/
def yamlFieldD {α : Type} (fields : List (String × Node)) (name : String) (default : α)
    (read : Node → Option α) : Option α :=
  match fields.lookup name with
  | none => some default
  | some node => read node

/-- Reads the configuration that the root of a document describes. -/
def ofNode? (root : Node) : Option Config := do
  let fields ← fieldsOfYaml? root root
  let default : Config := {}
  let data ← yamlFieldD fields "data" none (optionalTextOfYaml? root)
  let extensions ← yamlFieldD fields "extensions" default.extensions (textsOfYaml? root)
  let ignoreFile ← yamlFieldD fields "ignore_file" default.ignoreFile (textOfYaml? root)
  let iconBaseUri ← yamlFieldD fields "icon_base_uri" none (optionalTextOfYaml? root)
  return { data := data.map Path.mk, extensions, ignoreFile, iconBaseUri }

/-- Reads a configuration. A text without a document says nothing. -/
def ofYaml? (text : String) : Option Config :=
  if (Unicode.trim text).isEmpty then
    some {}
  else
    match Node.parse? text with
    | none => none
    | some none => some {}
    | some (some root) => ofNode? root

end FeatureRefs.Config
