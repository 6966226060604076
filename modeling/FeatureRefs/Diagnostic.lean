import FeatureRefs.Text.Lines
import FeatureRefs.Reference.Find
import FeatureRefs.Registry.Basic

/-!
# Diagnostics

A text is checked line by line. The first reference of a line is reported when the registry does not
have its id, so a line has at most one diagnostic. A registry without features stands for data that
could not be read, and against it nothing is reported.
-/

namespace FeatureRefs

/-- A reference to a feature that is not registered. -/
structure Diagnostic where
  range : Range
  /-- The id that the registry does not have. -/
  featureId : String
deriving Repr, DecidableEq

namespace Diagnostic

/-- The code of every diagnostic. -/
def code : String := "unrecognized-feature"

/-- The headline of a diagnostic. -/
def headline (d : Diagnostic) : String :=
  "Unrecognized Baseline feature ID: " ++ d.featureId

/-- What to do about a diagnostic. -/
def advice : String :=
  "Try using the 'Baseline search' command to find the feature you're looking for."

/-- The diagnostic in words: headline, empty line, advice. -/
def message (d : Diagnostic) : String :=
  d.headline ++ "\n\n" ++ advice

/-- The diagnostic of a reference, if its feature is not registered. -/
def ofReference? (registry : Registry) (reference : Reference) : Option Diagnostic :=
  if registry.contains reference.featureId then none
  else some ⟨reference.range, reference.featureId⟩

end Diagnostic

/-- The first references of lines that are numbered from `first` on. -/
def referencesFrom (first : Nat) (lines : List (List Char)) : List Reference :=
  (lines.zipIdx first).filterMap fun (line, n) => firstReference line n

/-- The diagnostics of a text. -/
def validate (text : String) (registry : Registry) : List Diagnostic :=
  if registry.isEmpty then
    []
  else
    (referencesFrom 0 (Text.lines text.toList)).filterMap (Diagnostic.ofReference? registry)

@[simp] theorem validate_of_isEmpty {registry : Registry} (h : registry.isEmpty = true)
    (text : String) : validate text registry = [] := by
  simp [validate, h]

end FeatureRefs
