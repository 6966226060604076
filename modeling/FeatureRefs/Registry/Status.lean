import FeatureRefs.Registry.Basic

/-!
# Status of a feature

The level of a feature in words, with the day since which it holds, and the icon that goes with it.
-/

namespace FeatureRefs

/-- What stands for a date that is not known. -/
def unknownDate : String := "Unknown"

/-- The icon of a level. -/
inductive Icon where
  | widely
  | newly
  | limited
deriving Repr, DecidableEq

/-- The name of an icon. -/
def Icon.name : Icon → String
  | widely => "widely"
  | newly => "newly"
  | limited => "limited"

/-- A level in words, with its icon. -/
structure Status where
  label : String
  icon : Icon
deriving Repr, DecidableEq

/-- The status of an availability. -/
def Availability.status (a : Availability) : Status :=
  match a.level with
  | .high => ⟨"Widely available since " ++ a.highDate.getD unknownDate, .widely⟩
  | .low => ⟨"Newly available since " ++ a.lowDate.getD unknownDate, .newly⟩
  | .limited => ⟨"Limited availability across major browsers", .limited⟩

/-- The status of a feature. -/
def Feature.status (feature : Feature) : Status :=
  feature.availability.status

end FeatureRefs
