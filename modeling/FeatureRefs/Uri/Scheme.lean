import FeatureRefs.Text.Split
import FeatureRefs.Uri.Basic

/-!
# Schemes

A scheme is special where every URI has slashes behind it and a backslash counts as a slash: the schemes of
the web, which also need a host, and the scheme of files.
-/

namespace FeatureRefs.Uri

/-- The scheme of files. -/
def fileScheme : String := "file"

/-- The number of the service that a scheme of the web stands for. -/
def schemeService? : String → Option Nat
  | "http" | "ws" => some 80
  | "https" | "wss" => some 443
  | "ftp" => some 21
  | _ => none

/-- Whether a scheme is one of the web. -/
def isWebScheme (scheme : String) : Bool :=
  (schemeService? scheme).isSome

/-- Whether a scheme is special. -/
def isSpecial (scheme : String) : Bool :=
  scheme == fileScheme || isWebScheme scheme

/-- Whether a character counts as a slash behind a scheme. -/
def isSlash (scheme : String) (c : Char) : Bool :=
  c == '/' || isSpecial scheme && c == '\\'

/-- Whether a character may stand in a scheme behind its first letter. -/
def isSchemeChar (c : Char) : Bool :=
  c.isAlphanum || c == '+' || c == '-' || c == '.'

/-- The scheme of a text in lower case, and what follows its colon. -/
def readScheme (text : List Char) : Except UriError (String × List Char) :=
  match Text.cutAt ':' text with
  | (c :: rest, some after) =>
      if c.isAlpha && rest.all isSchemeChar then
        .ok (String.ofList ((c :: rest).map Char.toLower), after)
      else
        .error .noScheme
  | _ => .error .noScheme

end FeatureRefs.Uri
