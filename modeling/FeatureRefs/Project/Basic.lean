import FeatureRefs.Project.Config
import FeatureRefs.Registry.File

/-!
# Projects

A project is a directory with a configuration. The configuration says where the data is, and which
directories are scanned if nothing else is asked for.
-/

namespace FeatureRefs

/-- A project: its root and its configuration. -/
structure Project where
  root : Path
  config : Config
deriving Repr, DecidableEq

namespace Project

/-- The path of the data file. -/
def dataPath (project : Project) : Path :=
  project.config.dataPath project.root

/-- The registry of a project; without data it is empty. -/
def registry (project : Project) (files : Files) : Registry :=
  .loadOrEmpty files project.dataPath

/-- The directories to scan. -/
def scanRoots (project : Project) (roots : List Path) : List Path :=
  if roots.isEmpty then [project.root] else roots

end Project

end FeatureRefs
