import Contention.EndReason
import Contention.Mode
import Contention.Stall.Report
import Contention.Sum

namespace Contention

/-- A worker that had not exited when the join grace ran out.  Its resources were
never released. -/
structure Straggler where
  worker : Worker
  held : Holding
  awaiting : Option Resource
deriving DecidableEq, Repr, Inhabited

namespace Straggler

def ofSnapshot (snapshot : Snapshot) : Straggler where
  worker := snapshot.worker
  held := snapshot.held
  awaiting := snapshot.awaiting

def text (abandoned : Straggler) : String :=
  abandoned.worker.name ++ ": hold=" ++ abandoned.held.text ++
    " wait=" ++ awaitingText abandoned.awaiting

def event (abandoned : Straggler) : Event where
  level := .warn
  message := "Worker abandoned with resources held"
  fields := [
    ("worker", abandoned.worker.name),
    ("held", abandoned.held.text),
    ("awaiting", optionalField (abandoned.awaiting.map (·.index)))]

def toJson (abandoned : Straggler) : Json :=
  .object [
    ("worker", .natural abandoned.worker.index),
    ("held", abandoned.held.toJson),
    ("awaiting", .optional (fun resource => .natural resource.index) abandoned.awaiting)]

end Straggler

structure Phase.Summary where
  mode : Mode
  pairing : Pairing
  resources : Nat
  workers : Nat
  timeoutSeconds : Float
  durationSeconds : Float
  total : Nat
  perWorker : List Nat
  elapsedSeconds : Float
  opsPerSecond : Float
  reason : EndReason
  stall : Option Stall.Report
  abandoned : List Straggler
deriving Inhabited

def rate (operations : Nat) (seconds : Float) : Float :=
  if 0.0 < seconds then Float.ofNat operations / seconds else 0.0

namespace Phase.Summary

def hasStalled (summary : Phase.Summary) : Bool := summary.stall.isSome

def addsUp (summary : Phase.Summary) : Except Fault Bool :=
  (sumWords summary.perWorker).map fun sum => sum == summary.total

def events (summary : Phase.Summary) : List Event :=
  { level := .info
    message := "Phase complete"
    fields := [
      ("mode", summary.mode.name),
      ("resources", toString summary.resources),
      ("workers", toString summary.workers),
      ("ops", toString summary.total),
      ("elapsed_secs", Decimal.Layout.field.write summary.elapsedSeconds),
      ("ops_per_second", Decimal.Layout.field.write summary.opsPerSecond),
      ("stop_reason", summary.reason.name)] } ::
    summary.abandoned.map Straggler.event

def text (summary : Phase.Summary) : String :=
  let abandoned :=
    if summary.abandoned.isEmpty then ""
    else
      s!"\n  abandoned {summary.abandoned.length} worker(s):" ++
        String.join (summary.abandoned.map fun abandoned => "\n    " ++ abandoned.text)
  summary.mode.name ++ s!": ops={summary.total} in " ++
    Decimal.fixed 2 summary.elapsedSeconds ++ "s (" ++ Decimal.fixed 1 summary.opsPerSecond ++
    " ops/s), stopped by " ++ summary.reason.name ++ abandoned

def toJson (summary : Phase.Summary) : Json :=
  .object [
    ("mode", .text summary.mode.name),
    ("pairing", .text summary.pairing.name),
    ("resources", .natural summary.resources),
    ("workers", .natural summary.workers),
    ("stall_timeout_secs", .real summary.timeoutSeconds),
    ("duration_secs", .real summary.durationSeconds),
    ("total_completed_ops", .natural summary.total),
    ("per_worker_ops", .list (summary.perWorker.map Json.natural)),
    ("elapsed_secs", .real summary.elapsedSeconds),
    ("ops_per_second", .real summary.opsPerSecond),
    ("stop_reason", .text summary.reason.name),
    ("stall", .optional Stall.Report.toJson summary.stall),
    ("abandoned", .list (summary.abandoned.map Straggler.toJson))]

end Phase.Summary

end Contention
