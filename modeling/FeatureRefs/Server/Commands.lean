import FeatureRefs.Json.Value
import FeatureRefs.Registry.Search
import FeatureRefs.Server.Scans

/-!
# Commands of a server

An editor may search the features, scan the workspace for TODO entries, cancel the scan, and have the
data read anew.
-/

namespace FeatureRefs

/-- A command. -/
inductive Command where
  | search (query : String)
  | scanTodos
  | cancelScan
  | reloadData
deriving Repr, DecidableEq

namespace Command

/-- The names of all commands. -/
def names : List String :=
  ["baseline.search", "baseline.scanTodos", "baseline.cancelScan", "baseline.reloadData"]

/-- The query of a search: the first argument if it is a text. -/
def queryOf (arguments : List Json.Value) : String :=
  ((arguments.head?.bind Json.Value.text?)).getD ""

/-- The command of a name. -/
def ofName? (name : String) (arguments : List Json.Value) : Option Command :=
  match name with
  | "baseline.search" => some (.search (queryOf arguments))
  | "baseline.scanTodos" => some .scanTodos
  | "baseline.cancelScan" => some .cancelScan
  | "baseline.reloadData" => some .reloadData
  | _ => none

end Command

/-- What a command answers. -/
inductive CommandResult where
  | nothing
  | candidates (candidates : List Candidate)
  | report (report : TodoReport)
  /-- The number of features. -/
  | features (count : Nat)

/-- Scans from the beginning to the end. -/
def Server.scanTodos (server : Server) (files : Files) :
    Server × CommandResult × List Notification :=
  match server.beginScan with
  | (server, .error e) => (server, .nothing, [.showMessage .error e.message])
  | (server, .ok job) =>
      match server.finishScan files job with
      | some report => (server, .report report, [])
      | none => (server, .nothing, [])

/-- Reads the data anew and tells the diagnostics of all open documents. -/
def Server.reloadData (server : Server) (files : Files) : Server × List Notification :=
  let server := { server with source := server.source.reload files }
  (server, server.publishAll)

/-- Carries a command out. -/
def Server.execute (server : Server) (files : Files) :
    Command → Server × CommandResult × List Notification
  | .search query => (server, .candidates (server.registry.search query), [])
  | .scanTodos => server.scanTodos files
  | .cancelScan => (server.cancelScan, .nothing, [])
  | .reloadData =>
      let (server, told) := server.reloadData files
      (server, .features server.registry.size, told)

end FeatureRefs
