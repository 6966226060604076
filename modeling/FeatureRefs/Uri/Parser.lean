import FeatureRefs.Uri.Authority
import FeatureRefs.Uri.Segments

/-!
# Reading URIs

Controls and blanks around a text do not count, nor do tabs and line breaks in it. A fragment begins at the
first number sign and a query at the first question mark before it. What comes before is read by the kind of
the scheme.
-/

namespace FeatureRefs.Uri

/-- A text without what does not count. -/
def clean (text : List Char) : List Char :=
  let isOuter (c : Char) : Bool := c.toNat ≤ 0x20
  let inner := ((text.dropWhile isOuter).reverse.dropWhile isOuter).reverse
  inner.filter fun c => c != '\t' && c != '\n' && c != '\r'

/-- The segments of a path behind its first slash. -/
def readSegments (scheme : String) (text : List Char) : List (List Char) :=
  UriPath.resolve [] (Text.split (isSlash scheme) text)

/-- The path that segments make up. -/
def rootedPath (segments : List (List Char)) : UriPath :=
  .rooted (segments.map fun s => String.ofList (Percent.encode isPlainInPath s))

/-- The path behind a host. Behind a special scheme there always is one. -/
def readPathBehind (scheme : String) (text : List Char) : UriPath :=
  match text with
  | [] => if isSpecial scheme then .rooted [""] else .rooted []
  | c :: rest => rootedPath (readSegments scheme (if isSlash scheme c then rest else c :: rest))

/-- Reads what follows the slashes that a host stands behind. -/
def readHosted (scheme : String) (part : List Char) (isLast : Bool) :
    Except UriError (Option Authority × UriPath) := do
  let (text, path) := Text.cutBefore (isSlash scheme) part
  let (authority, after) ← readAuthority scheme text (isLast && path.isEmpty)
  return (some authority, readPathBehind scheme (after ++ path))

/-- The host of a file. The name of the machine itself is left out. -/
def readFileHost (text : List Char) : Except UriError (Option Host) :=
  if text.isEmpty then .ok none
  else (readSpecialHost text).map fun host => if host = .name "localhost" then none else some host

/-- The parts of the URI of a file. A drive at the beginning of the path takes the place of the host. -/
def fileParts (host : Option Host) (path : List Char) : Option Authority × UriPath :=
  let segments := readSegments fileScheme path
  let host := if UriPath.startsAtDrive segments then none else host
  (some { host }, rootedPath (UriPath.fileSegments segments))

/-- Reads what follows the scheme of files. Where a drive stands in the place of a host it belongs to the path.
Without a host, the slash before the path counts as an empty segment. -/
def readFile (part : List Char) : Except UriError (Option Authority × UriPath) :=
  let isSlash := isSlash fileScheme
  match part with
  | a :: b :: rest =>
      if isSlash a && isSlash b then do
        let (text, path) := Text.cutBefore isSlash rest
        if UriPath.isDrive text then
          return fileParts none rest
        let host ← readFileHost text
        return fileParts host (if host.isSome then path.drop 1 else path)
      else
        .ok (fileParts none (if isSlash a then b :: rest else a :: b :: rest))
  | [a] => .ok (fileParts none (if isSlash a then [] else [a]))
  | [] => .ok (fileParts none [])

/-- Reads what stands between the scheme and the query. `isLast` says that nothing follows. -/
def readPart (scheme : String) (part : List Char) (isLast : Bool) :
    Except UriError (Option Authority × UriPath) :=
  if scheme == fileScheme then readFile part
  else if isWebScheme scheme then readHosted scheme (part.dropWhile (isSlash scheme)) isLast
  else
    match part with
    | '/' :: '/' :: rest => readHosted scheme rest isLast
    | '/' :: rest => .ok (none, rootedPath (readSegments scheme rest))
    | text => .ok (none, .rootless (String.ofList (Percent.encode isPlain text)))

/-- Reads a URI. -/
def parse (text : String) : Except UriError Uri := do
  let (scheme, rest) ← readScheme (clean text.toList)
  let (rest, fragment?) := Text.cutAt '#' rest
  let (part, query?) := Text.cutAt '?' rest
  let (authority, path) ← readPart scheme part (query?.isNone && fragment?.isNone)
  return {
    scheme, authority, path
    query := query?.map fun q =>
      String.ofList (Percent.encode (isPlainInQuery (isSpecial scheme)) q)
    fragment := fragment?.map fun f => String.ofList (Percent.encode isPlainInFragment f) }

/-- The text of the URI that a text stands for. -/
def normalize? (text : String) : Option String :=
  (parse text).toOption.map Uri.text

end FeatureRefs.Uri
