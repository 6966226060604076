import FeatureRefs.Unicode.Case
import FeatureRefs.Json.Record
import FeatureRefs.Registry.Basic

/-!
# Reading the registry

The data is a record with the tables `features` and `browsers`. A feature without a name only points
to another one and is left out; the ids of the others are put in lower case. Whatever the data says
of a feature's level besides "high" and "low" counts as limited.
-/

namespace FeatureRefs

/-- Why data does not make up a registry. -/
inductive RegistryError where
  /-- The data is no JSON text of the right shape. -/
  | malformed
  /-- A table is missing. -/
  | missingTable (name : String)
deriving Repr, DecidableEq

/-- The error in words. -/
def RegistryError.message : RegistryError → String
  | .malformed => "failed to parse feature data"
  | .missingTable name => "feature data is missing the `" ++ name ++ "` key"

/-- How many arrays and objects may be nested in data that is read. -/
def nestingLimit : Nat := 127

/-- Reads a level. It must be a value, and `depth` arrays and objects are around it. -/
def Level.ofJson? (depth : Nat) (document : Json.Document) : Option Level :=
  (document.toValue? (nestingLimit - depth)).map fun
    | .string "high" => .high
    | .string "low" => .low
    | _ => .limited

/-- Reads an availability around which stand `depth` arrays and objects. -/
def Availability.ofJson? (depth : Nat) (document : Json.Document) : Option Availability := do
  let fields ← document.fields?
    ["baseline", "baseline_low_date", "baseline_high_date", "support"]
  let level ← Json.fieldD fields "baseline" .limited (Level.ofJson? (depth + 1))
  let lowDate ← Json.fieldD fields "baseline_low_date" none (·.optional? (·.text?))
  let highDate ← Json.fieldD fields "baseline_high_date" none (·.optional? (·.text?))
  let support ← Json.fieldD fields "support" [] fun support => do
    let members ← support.members?
    let versions ← members.mapM fun (key, version) => version.text?.map (key, ·)
    return Json.tableOf versions
  return { level, lowDate, highDate, support }

/-- Reads an availability that stands on its own. -/
def Availability.parse? (text : String) : Option Availability :=
  (Json.Document.parse? text).bind (Availability.ofJson? 0)

/-- Reads an entry of the table of features; an entry without a name is no feature. -/
def Feature.ofJson? (key : String) (document : Json.Document) : Option (Option Feature) := do
  let fields ← document.fields? ["name", "description", "description_html", "status"]
  let name? ← Json.fieldD fields "name" none (·.optional? (·.text?))
  let description ← Json.fieldD fields "description" "" (·.text?)
  let descriptionHtml ← Json.fieldD fields "description_html" "" (·.text?)
  let availability ← Json.fieldD fields "status" {} (Availability.ofJson? 3)
  return name?.map fun name =>
    { id := Unicode.lowercase key, name, description, descriptionHtml, availability }

/-- Reads a release. -/
def Release.ofJson? (document : Json.Document) : Option Release := do
  let fields ← document.fields? ["version", "date"]
  let version ← Json.field? fields "version" (·.text?)
  let date ← Json.field? fields "date" (·.text?)
  return { version, date }

/-- Reads a browser. -/
def Browser.ofJson? (document : Json.Document) : Option Browser := do
  let fields ← document.fields? ["name", "releases"]
  let name ← Json.field? fields "name" (·.text?)
  let releases ← Json.fieldD fields "releases" [] fun releases =>
    match releases with
    | .array items => items.mapM Release.ofJson?
    | _ => none
  return { name, releases }

/-- Reads the table of features. -/
def readFeatures? (document : Json.Document) : Option (List Feature) := do
  let members ← document.members?
  let entries ← members.mapM fun (key, entry) => (Feature.ofJson? key entry).map (key, ·)
  -- The last entry of a key counts, even if it has no name.
  return (Json.tableOf entries).filterMap (·.2)

/-- Reads the table of browsers. -/
def readBrowsers? (document : Json.Document) : Option (List (String × Browser)) := do
  let members ← document.members?
  let entries ← members.mapM fun (key, entry) => (Browser.ofJson? entry).map (key, ·)
  return Json.tableOf entries

/-- The two tables of the data, as far as they are there. -/
def readTables? (document : Json.Document) :
    Option (Option (List Feature) × Option (List (String × Browser))) := do
  let fields ← document.fields? ["features", "browsers"]
  let features ← Json.fieldD fields "features" none (·.optional? readFeatures?)
  let browsers ← Json.fieldD fields "browsers" none (·.optional? readBrowsers?)
  return (features, browsers)

namespace Registry

/-- The registry of features and browsers. -/
def ofTables (features : List Feature) (browsers : List (String × Browser)) : Registry :=
  features.foldl put { empty with browsers := browsers }

/-- The registry that a document describes. -/
def ofJson (document : Json.Document) : Except RegistryError Registry :=
  match readTables? document with
  | none => .error .malformed
  | some (none, _) => .error (.missingTable "features")
  | some (some _, none) => .error (.missingTable "browsers")
  | some (some features, some browsers) => .ok (ofTables features browsers)

/-- The registry that a text describes. -/
def parse (text : String) : Except RegistryError Registry :=
  match Json.Document.parse? text with
  | none => .error .malformed
  | some document => ofJson document

end Registry

end FeatureRefs
