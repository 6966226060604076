import FeatureRefs.Unicode.Blank
import FeatureRefs.Registry.Status

/-!
# Browser support

A support table has one cell for each browser, in the fixed order. A version may be written with the
sign for "at most" in front; its release date is then that of the version itself.
-/

namespace FeatureRefs

/-- Whether and since when a browser supports a feature. -/
structure SupportCell where
  browser : BrowserId
  browserName : String
  /-- The earliest supporting version, if there is one. -/
  version : Option String
  /-- The day that version came out, if there is a version. -/
  releaseDate : Option String
deriving Repr, DecidableEq

/-- What stands for the version where there is no support. -/
def unsupportedMark : String := "❌"

namespace Registry

/-- The data of a browser. -/
def browser? (r : Registry) (browser : BrowserId) : Option Browser :=
  r.browsers.lookup browser.key

/-- The name of a browser. -/
def browserName (r : Registry) (browser : BrowserId) : String :=
  match r.browser? browser with
  | some b => b.name
  | none => browser.defaultName

/-- The day on which a version of a browser came out. -/
def releaseDate (r : Registry) (browserKey version : String) : String :=
  let version := Unicode.trimStart (· == '≤') version
  let release? := (r.browsers.lookup browserKey).bind fun b =>
    b.releases.find? (·.version == version)
  match release? with
  | some release => release.date
  | none => unknownDate

/-- The support of a feature by a browser. -/
def supportCell (r : Registry) (feature : Feature) (browser : BrowserId) : SupportCell :=
  let version := feature.supportFor browser
  { browser := browser
    browserName := r.browserName browser
    version := version
    releaseDate := version.map (r.releaseDate browser.key) }

/-- The support of a feature by each browser. -/
def supportCells (r : Registry) (feature : Feature) : List SupportCell :=
  BrowserId.all.map (r.supportCell feature)

end Registry

end FeatureRefs
