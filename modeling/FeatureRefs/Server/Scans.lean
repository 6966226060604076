import FeatureRefs.Server.Basic
import FeatureRefs.Todo.Report

/-!
# Scans of a server

A scan takes its time, and other requests are handled meanwhile. It is begun and finished in two steps.
A new scan cancels the one before, and a scan that was cancelled in between has no report.
-/

namespace FeatureRefs

/-- A scan under way. -/
structure ScanJob where
  number : Nat
  scanner : Scanner
  roots : List Path

namespace Scans

/-- Cancels the scan in the slot. -/
def cancel (scans : Scans) : Scans :=
  { scans with slot := none, cancelled := scans.slot.toList ++ scans.cancelled }

/-- Begins a scan, which takes the slot. -/
def begin (scans : Scans) : Scans :=
  { scans.cancel with slot := some scans.next, next := scans.next + 1 }

/-- Whether a scan was cancelled. -/
def isCancelled (scans : Scans) (number : Nat) : Bool :=
  scans.cancelled.contains number

@[simp] theorem slot_cancel (scans : Scans) : scans.cancel.slot = none := rfl

@[simp] theorem slot_begin (scans : Scans) : scans.begin.slot = some scans.next := rfl

/-- The scan in the slot is the only one that a cancellation reaches. -/
theorem isCancelled_cancel (scans : Scans) (number : Nat) :
    scans.cancel.isCancelled number = (scans.slot == some number || scans.isCancelled number) := by
  cases h : scans.slot with
  | none => simp [cancel, isCancelled, h]
  | some current => simp [cancel, isCancelled, h, Bool.beq_eq_decide_eq, eq_comm]

end Scans

namespace Server

/-- Begins a scan; without extensions there is nothing to scan for. -/
def beginScan (server : Server) : Server × Except ScanError ScanJob :=
  match server.config.scanner with
  | .error e => (server, .error e)
  | .ok scanner =>
      ({ server with scans := server.scans.begin },
        .ok ⟨server.scans.next, scanner, server.roots⟩)

/-- Finishes a scan. The registry in force at the end makes up the report. -/
def finishScan (server : Server) (files : Files) (job : ScanJob) : Option TodoReport :=
  let result :=
    job.scanner.scan files job.roots [] (server.scans.isCancelled job.number)
  match result.status with
  | .cancelled => none
  | .complete => some (.ofEntries server.registry files.workingDirectory result.entries)

/-- Cancels the scan under way, if there is one. -/
def cancelScan (server : Server) : Server :=
  { server with scans := server.scans.cancel }

/-- Shuts the server down. -/
def shutDown (server : Server) : Server :=
  server.cancelScan

end Server

end FeatureRefs
