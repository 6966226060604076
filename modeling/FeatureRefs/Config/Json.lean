import FeatureRefs.Config.Basic
import FeatureRefs.Json.Record

/-!
# Configurations in JSON

A configuration is a record, all of whose fields may be left out. A null stands for the default.
-/

namespace FeatureRefs.Config

open Json (Value)

/-- Reads a list of texts. -/
def textsOfJson? : Value → Option (List String)
  | .array items => items.mapM (·.text?)
  | _ => none

/-- Reads a configuration. -/
def ofJson? (value : Value) : Option Config := do
  match value with
  | .null => return {}
  | value =>
      let fields ← value.fields? fieldNames
      let default : Config := {}
      let data ← Json.fieldD fields "data" default.data (·.optional? (·.text?.map Path.mk))
      let extensions ← Json.fieldD fields "extensions" default.extensions textsOfJson?
      let ignoreFile ← Json.fieldD fields "ignore_file" default.ignoreFile (·.text?)
      let iconBaseUri ←
        Json.fieldD fields "icon_base_uri" default.iconBaseUri (·.optional? (·.text?))
      return { data, extensions, ignoreFile, iconBaseUri }

end FeatureRefs.Config
