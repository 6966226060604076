import FeatureRefs.Uri.Alphabet
import FeatureRefs.Uri.Percent
import FeatureRefs.Uri.Scheme

/-!
# URIs and files

The URI of a file has the absolute path of the file. The other way round, a URI of any scheme stands for the
file at its path, as long as no other machine is meant.
-/

namespace FeatureRefs.Uri

/-- The segment for a component of a path. -/
def segmentOfComponent? : Path.Component → Option String
  | .name text => some (String.ofList (Percent.encode isPlainInFileName text.toList))
  | .parent => some ".."
  | .root | .current => none

/-- The URI of a file; a relative path is taken from a directory. -/
def ofPath (directory path : Path) : Uri where
  scheme := fileScheme
  authority := some {}
  path := .rooted <|
    match (directory.join path).components.filterMap segmentOfComponent? with
    | [] => [""]
    | segments => segments

/-- Whether a URI names no machine, or the one itself. -/
def isLocal (u : Uri) : Bool :=
  match u.authority.bind (·.host) with
  | none => true
  | some host => host = .name "localhost"

/-- A name that no file has. -/
def noFileName : String := "\x00"

/-- The name that a segment stands for. Bytes that are no text are the name of no file. -/
def fileName (segment : String) : String :=
  (Percent.decodeText? segment.toList).getD noFileName

/-- The text of a path; a drive at its end is a directory. -/
def withSlashBehindDrive (text : List Char) : List Char :=
  match text.reverse with
  | mark :: c :: _ :: _ =>
      if c.isAlpha && (mark == ':' || mark == '|') then text ++ ['/'] else text
  | _ => text

/-- The path of the file that a URI stands for. -/
def toPath? (u : Uri) : Option Path :=
  match u.path with
  | .rooted (segment :: segments) =>
      if u.isLocal then
        let text := "".intercalate ((segment :: segments).map fun s => "/" ++ fileName s)
        some ⟨String.ofList (withSlashBehindDrive text.toList)⟩
      else
        none
  | _ => none

end FeatureRefs.Uri
