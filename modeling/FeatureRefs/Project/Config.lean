import FeatureRefs.Config.Yaml

/-!
# The configuration of a project

A project may have a configuration file at a fixed place. A file that is there must be readable and must
hold a configuration.
-/

namespace FeatureRefs.Project

/-- Where the configuration file is, from the root. -/
def configFile : Path := ⟨".config/baseline/config.yaml"⟩

/-- The path of the configuration file of a project. -/
def configPath (root : Path) : Path :=
  root.join configFile

/-- Why there is no configuration. -/
inductive ConfigError where
  | unreadable (path : Path)
  | malformed (path : Path)
deriving Repr, DecidableEq

/-- The error in words. -/
def ConfigError.message : ConfigError → String
  | unreadable path => "Failed to read config file: " ++ path.text
  | malformed path => "Failed to parse config file: " ++ path.text

/-- The configuration of a file. -/
def loadConfig (files : Files) (path : Path) : Except ConfigError Config :=
  match files.readText? path with
  | none => .error (.unreadable path)
  | some text =>
      match Config.ofYaml? text with
      | none => .error (.malformed path)
      | some config => .ok config

/-- The configuration of a file, or the default one where there is no file. -/
def loadConfigOrDefault (files : Files) (path : Path) : Except ConfigError Config :=
  if files.contains path then loadConfig files path else .ok {}

end FeatureRefs.Project
