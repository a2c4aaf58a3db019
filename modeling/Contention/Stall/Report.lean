import Contention.Event
import Contention.Time.Span
import Contention.WaitGraph.Cycles

namespace Contention

structure Stall.Report where
  timeoutSeconds : Float
  idleSeconds : Float
  total : Nat
  workers : List Snapshot
  cycles : List (List Worker)
deriving Inhabited

def arrows (cycle : List Worker) : String :=
  " -> ".intercalate ((cycle ++ cycle.take 1).map Worker.name)

namespace Stall.Report

def ofSnapshots (workers : List Snapshot) (timeout idle : Span) (total : Nat) : Stall.Report where
  timeoutSeconds := timeout.seconds
  idleSeconds := idle.seconds
  total := total
  workers := workers
  cycles := (WaitGraph.ofSnapshots workers).cycles

def graph (report : Stall.Report) : WaitGraph := .ofSnapshots report.workers

def holdingAndWaiting (report : Stall.Report) : List Snapshot :=
  report.workers.filter Snapshot.holdsAndWaits

def showsDeadlock (report : Stall.Report) : Bool := !report.cycles.isEmpty

def reachedTimeout (report : Stall.Report) : Bool := report.timeoutSeconds ≤ report.idleSeconds

def snapshotEvent (snapshot : Snapshot) : Event where
  level := .warn
  message := "Worker state at stall"
  fields := [
    ("worker", snapshot.worker.name),
    ("held", snapshot.held.text),
    ("awaiting", optionalField (snapshot.awaiting.map (·.index))),
    ("last_progress_secs", Decimal.Layout.field.write snapshot.sinceProgress),
    ("ops", toString snapshot.completed)]

def cycleEvent (cycle : List Worker) : Event where
  level := .warn
  message := "Circular wait"
  fields := [("cycle", arrows cycle)]

/-- One event for the report, one for each worker and one for each cycle. -/
def events (report : Stall.Report) : List Event :=
  { level := .warn
    message := "No progress for the stall timeout, possible deadlock"
    fields := [
      ("idle_secs", Decimal.Layout.field.write report.idleSeconds),
      ("stall_timeout_secs", Decimal.Layout.field.write report.timeoutSeconds),
      ("total_completed_ops", toString report.total)] } ::
    report.workers.map snapshotEvent ++ report.cycles.map cycleEvent

def text (report : Stall.Report) : String :=
  "[monitor] No progress for " ++ Decimal.fixed 1 report.idleSeconds ++
    "s (timeout " ++ Decimal.fixed 0 report.timeoutSeconds ++ "s). Possible deadlock.\n" ++
    "[monitor] Worker states (worker: hold | wait):\n" ++
    String.join (report.workers.map fun snapshot => "  " ++ snapshot.text ++ "\n") ++
    String.join (report.cycles.map fun cycle => "  cycle: " ++ arrows cycle ++ "\n")

def toJson (report : Stall.Report) : Json :=
  .object [
    ("stall_timeout_secs", .real report.timeoutSeconds),
    ("idle_secs", .real report.idleSeconds),
    ("total_completed_ops", .natural report.total),
    ("workers", .list (report.workers.map Snapshot.toJson)),
    ("cycles", .list (report.cycles.map fun cycle =>
      .list (cycle.map fun worker => .natural worker.index)))]

end Stall.Report

end Contention
