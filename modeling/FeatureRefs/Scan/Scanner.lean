import FeatureRefs.Files.Tree
import FeatureRefs.Scan.Exclusion
import FeatureRefs.Todo.Entry
import FeatureRefs.Todo.Extensions

/-!
# Scanning for TODO entries

A scan looks below its roots at the files with one of the chosen extensions. Paths that the ignore
file of a root excludes are left out. Files that cannot be read as text are passed over. Entries come
in the order of the roots, then of the files, then of the lines.
-/

namespace FeatureRefs

/-- Why a scan cannot begin. -/
inductive ScanError where
  | noExtensions
deriving Repr, DecidableEq

/-- The error in words. -/
def ScanError.message : ScanError → String
  | noExtensions =>
      "no file extensions are configured for TODO scanning; " ++
        "add at least one entry to `extensions`"

/-- What a scan looks at. -/
structure Scanner where
  /-- The extensions in their normal form. -/
  extensions : List String
  /-- The path of a root's ignore file from the root. -/
  ignoreFile : Path
deriving Repr, DecidableEq

/-- How a scan ended. -/
inductive ScanStatus where
  | complete
  | cancelled
deriving Repr, DecidableEq

/-- A scan's end and what it found. -/
structure ScanResult where
  status : ScanStatus
  entries : List TodoEntry
deriving Repr, DecidableEq

namespace Scanner

/-- The ignore file of a root that is not told otherwise. -/
def defaultIgnoreFile : String := ".gitignore"

/-- A scanner for extensions, of which there must be at least one. -/
def ofExtensions (extensions : List String) (ignoreFile : String) : Except ScanError Scanner :=
  match normalizeExtensions extensions with
  | [] => .error .noExtensions
  | first :: others => .ok ⟨first :: others, ⟨ignoreFile⟩⟩

/-- The exclusions of a root; without an ignore file that can be read there are none. -/
def exclusion (scanner : Scanner) (files : Files) (root : Path) : Exclusion :=
  match files.readText? (root.join scanner.ignoreFile) with
  | some text => .ofText text
  | none => {}

/-- Names below a root as a path from the root. -/
def relativeText (names : List String) : String :=
  "/".intercalate names

/-- The path that names lead to from a root. -/
def pathBelow (root : Path) (names : List String) : Path :=
  names.foldl (fun path name => path.join ⟨name⟩) root

/-- The files below a root with an allowed extension that are not excluded, with their bytes. -/
def filesBelow (scanner : Scanner) (files : Files) (root : Path) : List (Path × ByteArray) :=
  match files.tree? root with
  | none => []
  | some tree =>
      let exclusion := scanner.exclusion files root
      -- Directories that are excluded are not entered.
      let found := tree.walk (fun names => !exclusion.excludes (relativeText names)) []
      (found.map fun (names, content) => (pathBelow root names, content)).filter fun file =>
        hasAllowedExtension file.1 scanner.extensions

/-- The root that stands for standard input, in which there is nothing to look at. -/
def standardInput : Path := ⟨"-"⟩

/-- The files below a root that a scan reads, standard input having none. -/
def enumerated (scanner : Scanner) (files : Files) (root : Path) : List (Path × ByteArray) :=
  if root.isSame standardInput then [] else scanner.filesBelow files root

/-- The entries of a file; one that is not text has none. -/
def entriesOf (file : Path × ByteArray) : List TodoEntry :=
  match String.fromUTF8? file.2 with
  | some text => extractTodos file.1 text
  | none => []

/-- The entries below a root. When a file has been read its extension is checked once more. -/
def scanRoot (scanner : Scanner) (files : Files) (root : Path) : List TodoEntry :=
  (scanner.enumerated files root).flatMap fun file =>
    if hasAllowedExtension file.1 scanner.extensions then entriesOf file else []

/-- Scans roots in their order and adds what is found to `entries`. A scan that is cancelled from the
beginning looks at no root. -/
def scan (scanner : Scanner) (files : Files) (roots : List Path) (entries : List TodoEntry)
    (isCancelled : Bool) : ScanResult :=
  if isCancelled && !roots.isEmpty then
    ⟨.cancelled, entries⟩
  else
    ⟨.complete, entries ++ roots.flatMap (scanner.scanRoot files)⟩

end Scanner

end FeatureRefs
