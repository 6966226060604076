import FeatureRefs.Files.Tree
import FeatureRefs.Registry.Load

/-!
# Data files

The registry is read from a file. A program that goes on without data takes the empty registry where
there is none to be had.
-/

namespace FeatureRefs

/-- Why a data file makes up no registry. -/
inductive DataFileError where
  | unreadable (path : Path)
  | invalid (reason : RegistryError)
deriving Repr, DecidableEq

/-- The error in words. -/
def DataFileError.message : DataFileError → String
  | unreadable path => "failed to read feature data from " ++ path.text
  | invalid reason => reason.message

namespace Registry

/-- The registry of a data file. -/
def load (files : Files) (path : Path) : Except DataFileError Registry :=
  match files.readText? path with
  | none => .error (.unreadable path)
  | some text => (parse text).mapError .invalid

/-- The registry of a data file, or the empty one. -/
def loadOrEmpty (files : Files) (path : Path) : Registry :=
  match load files path with
  | .ok registry => registry
  | .error _ => .empty

end Registry

end FeatureRefs
