import FeatureRefs.Config.Basic
import FeatureRefs.Registry.Source
import FeatureRefs.Session
import FeatureRefs.Uri.Parser

/-!
# The state of a language server

A server holds the registry, the configuration, the workspace folders and the open documents. It tells
the editor about diagnostics by notifications, which carry the version that was validated.
-/

namespace FeatureRefs

/-- How a message is meant. -/
inductive MessageKind where
  | error
  | info
deriving Repr, DecidableEq

/-- What a server tells the editor without being asked. -/
inductive Notification where
  /-- The diagnostics of a document in place of all earlier ones. -/
  | diagnostics (uri : String) (diagnostics : List Diagnostic) (version : Option Int)
  /-- A message to the user. -/
  | showMessage (kind : MessageKind) (text : String)
  /-- A message for the log. -/
  | logMessage (kind : MessageKind) (text : String)
deriving Repr, DecidableEq

/-- The scans that were begun. Each has its number. -/
structure Scans where
  /-- The number of the next scan. -/
  next : Nat := 0
  /-- The scan that a new one or a request would cancel. -/
  slot : Option Nat := none
  /-- The scans that were cancelled. -/
  cancelled : List Nat := []
deriving Repr, DecidableEq

/-- The state of a language server. -/
structure Server where
  source : DataSource
  config : Config
  /-- The directory that the path of the data is taken from. -/
  projectRoot : Path
  /-- The directories that are scanned. -/
  roots : List Path
  documents : Session := {}
  scans : Scans := {}

namespace Server

/-- A server for a project. -/
def start (files : Files) (config : Config) (root : Path) : Server where
  source := .load files (config.dataPath root)
  config := config
  projectRoot := root
  roots := [root]

/-- The registry in force. -/
def registry (server : Server) : Registry :=
  server.source.registry

/-- Tells the diagnostics of a document, unless it is not open. The URI that is told is read anew from the one
that the document was stored under. -/
def publish (server : Server) (uri : String) : List Notification :=
  match server.documents.validate uri server.registry with
  | none => []
  | some run =>
      if server.documents.isCurrent run then
        ((Uri.normalize? run.uri).map fun uri =>
          .diagnostics uri run.diagnostics (some run.version)).toList
      else
        []

/-- Tells the diagnostics of all open documents. -/
def publishAll (server : Server) : List Notification :=
  server.documents.uris.flatMap server.publish

end Server

end FeatureRefs
