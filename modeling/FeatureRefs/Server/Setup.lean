import FeatureRefs.Config.Json
import FeatureRefs.Uri.File
import FeatureRefs.Server.Basic

/-!
# Setting a server up

The editor names the workspace folders and may send a configuration. Folders that are no directories of
the file system do not count, and a configuration that is none is passed over. The data is read anew
when it is to be found elsewhere.
-/

namespace FeatureRefs

/-- What the editor says at the beginning. -/
structure SetupParams where
  rootUri : Option Uri := none
  workspaceFolders : List Uri := []
  options : Option Json.Value := none

namespace SetupParams

/-- The directories to work in: the workspace folders, or else the root. -/
def roots (params : SetupParams) : List Path :=
  match params.workspaceFolders.filterMap Uri.toPath? with
  | [] => (params.rootUri.bind Uri.toPath?).toList
  | folders => folders

/-- The configuration, or the one in force if there is none. -/
def config (params : SetupParams) (current : Config) : Config :=
  match params.options with
  | none => current
  | some options => (Config.ofJson? options).getD current

end SetupParams

namespace Server

/-- Sets the workspace folders and the configuration. -/
def setUp (server : Server) (files : Files) (params : SetupParams) : Server :=
  let roots := params.roots
  let root := roots.headD server.projectRoot
  let config := params.config server.config
  let dataPath := config.dataPath root
  { server with
    roots := if roots.isEmpty then server.roots else roots
    projectRoot := root
    config := config
    source :=
      if dataPath.isSame server.source.path then server.source
      else server.source.reloadFrom files dataPath }

/-- What is told once the editor is ready. -/
def greeting (server : Server) : List Notification :=
  [.logMessage .info ("baseline ready with " ++ toString server.registry.size ++ " features")]

end Server

end FeatureRefs
