import FeatureRefs.CommandLine.Run
import FeatureRefs.Server.Connection

/-!
# The files that are looked at

Before an action is carried out it is known which paths are looked at. Of some of them only the file itself
matters, of the roots of a scan everything below.
-/

namespace FeatureRefs

/-- Paths that are looked at. -/
structure Needs where
  /-- Paths at which a file is read. -/
  files : List Path := []
  /-- Paths at which everything below is looked at. -/
  trees : List Path := []
deriving Repr, DecidableEq

/-- The paths that a scan looks at. -/
def Config.scanNeeds (config : Config) (roots : List Path) : Needs where
  files := roots.map fun root => root.join ⟨config.ignoreFile⟩
  trees := roots

/-- The paths at which the root of a project shows. -/
def Project.markerPaths (start : Path) : List Path :=
  (candidates start).flatMap fun directory => rootMarkers.map directory.join

/-- The paths that an action looks at besides the configuration. -/
def Project.needs (project : Project) : CommandLine.Action → Needs
  | .check paths => { files := project.dataPath :: paths }
  | .todos roots _ =>
      let scan := project.config.scanNeeds (project.scanRoots roots)
      { scan with files := project.dataPath :: scan.files }
  | .search _ _ _ => { files := [project.dataPath] }
  | .serve => { files := [project.dataPath] }

/-- The paths that a server looks at for a message. -/
def Server.needs (server : Server) : Message → Needs
  | .setUp params =>
      let root := params.roots.headD server.projectRoot
      { files := [server.source.path, (params.config server.config).dataPath root] }
  | .execute name arguments =>
      match Command.ofName? name arguments with
      | some .scanTodos => server.config.scanNeeds server.roots
      | some .reloadData => { files := [server.source.path] }
      | _ => {}
  | _ => {}

end FeatureRefs
