import FeatureRefs.Files.Tree

/-!
# Captured files

A view of the files can be made up of what was found at certain paths. At other paths it has nothing, so
whoever makes it must know which paths will be asked for.
-/

namespace FeatureRefs

/-- What was found at a path. -/
abbrev Capture := Path × Tree

/-- The view made up of captures. -/
def Files.ofCaptures (directory : Path) (captures : List Capture) : Files where
  workingDirectory := directory
  tree? := fun path => captures.lookup path

end FeatureRefs
