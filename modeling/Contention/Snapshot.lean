import Contention.Decimal.Fixed
import Contention.Holding

namespace Contention

/-- One worker's record as it was read.  The fields of a worker that is moving
may come from adjacent moments; those of a blocked one belong together. -/
structure Snapshot where
  worker : Worker
  held : Holding
  awaiting : Option Resource
  sinceProgress : Float
  completed : Nat
deriving Inhabited

def awaitingText : Option Resource → String
  | none => "-"
  | some resource => toString resource.index

namespace Snapshot

def holdsAndWaits (snapshot : Snapshot) : Bool :=
  !snapshot.held.isEmpty && snapshot.awaiting.isSome

def text (snapshot : Snapshot) : String :=
  snapshot.worker.name ++ ": hold=" ++ snapshot.held.text ++
    " wait=" ++ awaitingText snapshot.awaiting ++
    " last_prog=" ++ Decimal.fixed 2 snapshot.sinceProgress ++
    s!"s ops={snapshot.completed}"

def toJson (snapshot : Snapshot) : Json :=
  .object [
    ("worker", .natural snapshot.worker.index),
    ("held", snapshot.held.toJson),
    ("awaiting", .optional (fun resource => .natural resource.index) snapshot.awaiting),
    ("seconds_since_last_progress", .real snapshot.sinceProgress),
    ("completed_ops", .natural snapshot.completed)]

end Snapshot

end Contention
