import Std.Data.TreeMap
import FeatureRefs.Diagnostic
import FeatureRefs.Hover
import FeatureRefs.Reference.Trigger

/-!
# Open documents

A session holds the documents that are open in an editor, each with the version that came with its text.
A change of an older version than the one that is stored is refused. A validation remembers its version,
and it is current as long as that is the version of the document.
-/

namespace FeatureRefs

/-- The text of a document and its version. -/
structure TextDocument where
  version : Int
  text : String
deriving Repr, DecidableEq

/-- The diagnostics of a version of a document. -/
structure ValidationRun where
  uri : String
  version : Int
  diagnostics : List Diagnostic
deriving Repr, DecidableEq

/-- The documents that are open, by their URIs. -/
structure Session where
  documents : Std.TreeMap String TextDocument := ∅

namespace Session

/-- The document of a URI. -/
def get? (s : Session) (uri : String) : Option TextDocument :=
  s.documents[uri]?

/-- Stores a document in place of the one with its URI, if there is one. -/
def openDocument (s : Session) (uri : String) (document : TextDocument) : Session :=
  ⟨s.documents.insert uri document⟩

/-- Whether a version is older than the one that is stored. -/
def isOutdated (s : Session) (uri : String) (version : Int) : Bool :=
  (s.get? uri).any fun stored => version < stored.version

/-- Stores a document unless its version is outdated. Says whether it was stored. -/
def change (s : Session) (uri : String) (document : TextDocument) : Session × Bool :=
  if s.isOutdated uri document.version then (s, false) else (s.openDocument uri document, true)

/-- Forgets a document. -/
def close (s : Session) (uri : String) : Session :=
  ⟨s.documents.erase uri⟩

/-- Whether a document is open. -/
def isOpen (s : Session) (uri : String) : Bool :=
  (s.get? uri).isSome

/-- The text of a document. -/
def text? (s : Session) (uri : String) : Option String :=
  (s.get? uri).map TextDocument.text

/-- The version of a document. -/
def version? (s : Session) (uri : String) : Option Int :=
  (s.get? uri).map TextDocument.version

/-- The URIs of all open documents, in their order. -/
def uris (s : Session) : List String :=
  s.documents.keys

/-- Validates the stored version of a document. -/
def validate (s : Session) (uri : String) (registry : Registry) : Option ValidationRun :=
  (s.get? uri).map fun document =>
    ⟨uri, document.version, FeatureRefs.validate document.text registry⟩

/-- Whether the stored version of a document is still the one that was validated. -/
def isCurrent (s : Session) (run : ValidationRun) : Bool :=
  s.version? run.uri == some run.version

/-- The hover at a position of a document. -/
def hover (s : Session) (uri : String) (position : Position) (registry : Registry)
    (style : HoverStyle) : Option Hover :=
  (s.text? uri).bind fun text => FeatureRefs.hover text position registry style

/-- The place for an id at a position of a document. -/
def completionTrigger (s : Session) (uri : String) (position : Position) : Option Trigger := do
  let text ← s.text? uri
  let line ← (Text.lines text.toList)[position.line]?
  FeatureRefs.completionTrigger line position.line position.character

@[simp] theorem get?_openDocument_self (s : Session) (uri : String) (document : TextDocument) :
    (s.openDocument uri document).get? uri = some document := by
  simp [get?, openDocument]

theorem get?_openDocument_of_ne {s : Session} {uri other : String} (h : other ≠ uri)
    (document : TextDocument) : (s.openDocument uri document).get? other = s.get? other := by
  simp [get?, openDocument, Std.TreeMap.getElem?_insert, h.symm]

@[simp] theorem get?_close_self (s : Session) (uri : String) : (s.close uri).get? uri = none := by
  simp [get?, close]

theorem get?_close_of_ne {s : Session} {uri other : String} (h : other ≠ uri) :
    (s.close uri).get? other = s.get? other := by
  simp [get?, close, Std.TreeMap.getElem?_erase, h.symm]

end Session

end FeatureRefs
