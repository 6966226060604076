import FeatureRefs.Hover
import FeatureRefs.Scan.Scanner

/-!
# Configuration

A configuration tells where the data is, which files are scanned and how hovers are written. What it
does not say has a default.
-/

namespace FeatureRefs

/-- Where a package manager puts the data. -/
def defaultDataPath : Path := ⟨"node_modules/web-features/data.json"⟩

/-- The extensions of the files that are scanned by default. -/
def defaultExtensions : List String :=
  ["html", "htm", "css", "scss", "sass", "less", "js", "jsx", "mjs", "cjs", "ts", "tsx", "vue",
    "svelte", "astro", "md"]

/-- A configuration. -/
structure Config where
  /-- The data file, from the root of the project. -/
  data : Option Path := none
  /-- The extensions as they are written. -/
  extensions : List String := defaultExtensions
  /-- The ignore file, from each root. -/
  ignoreFile : String := Scanner.defaultIgnoreFile
  /-- Where the images of the icons are. -/
  iconBaseUri : Option String := none
deriving Repr, DecidableEq

namespace Config

/-- The names of the fields, in their order. -/
def fieldNames : List String :=
  ["data", "extensions", "ignore_file", "icon_base_uri"]

/-- The path of the data file in a project. -/
def dataPath (config : Config) (root : Path) : Path :=
  root.join (config.data.getD defaultDataPath)

/-- The scanner for a configuration. -/
def scanner (config : Config) : Except ScanError Scanner :=
  Scanner.ofExtensions config.extensions config.ignoreFile

/-- The style of hovers. -/
def hoverStyle (config : Config) : HoverStyle :=
  ⟨config.iconBaseUri⟩

end Config

end FeatureRefs
