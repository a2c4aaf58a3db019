import Contention.Sum
import Contention.Worker.Section

namespace Contention

/-! Checks mutual exclusion from the inside: a section claims a cell for each of
its two resources on entry and vacates both at its end.  A cell that is not as
expected is a violation. -/

structure Occupancy where
  /-- The tag of the worker that claimed the resource, zero when it is free. -/
  cells : List Nat
  violations : Nat := 0
  entries : Nat := 0
deriving DecidableEq, Repr, Inhabited

namespace Occupancy

def ofSize (resources : Nat) : Occupancy := { cells := List.replicate resources 0 }

def enter (occupancy : Occupancy) : Occupancy :=
  { occupancy with entries := occupancy.entries + 1 }

/-- The mark that a worker leaves in a cell.  It is never zero. -/
def tag (worker : Worker) : Except Fault Nat := addWords worker.index 1

/-- Replaces `expected` by `next` in a resource's cell.  A cell that holds
anything else stays as it is, and a violation is counted. -/
def exchange (occupancy : Occupancy) (resource : Resource) (expected next : Nat) :
    Except Fault Occupancy :=
  match occupancy.cells[resource.index]? with
  | none => .error (.outOfBounds occupancy.cells.length resource.index)
  | some found =>
      if found = expected then
        .ok { occupancy with cells := occupancy.cells.set resource.index next }
      else .ok { occupancy with violations := occupancy.violations + 1 }

def occupy (occupancy : Occupancy) (resource : Resource) (worker : Worker) :
    Except Fault Occupancy := do
  let mark ← tag worker
  occupancy.exchange resource 0 mark

def free (occupancy : Occupancy) (resource : Resource) (worker : Worker) :
    Except Fault Occupancy := do
  let mark ← tag worker
  occupancy.exchange resource mark 0

def change (act : Occupancy → Except Fault Occupancy) : Section.Step Occupancy :=
  fun occupancy generator =>
    match act occupancy with
    | .ok next => { shared := next, generator }
    | .error fault => { shared := occupancy, generator, fault := some fault }

def holdStep (maxHold : Span) : Section.Step Occupancy :=
  fun occupancy generator =>
    let (micros, rest) := generator.drawUpTo (UInt64.ofNat (min maxHold.wholeMicros wordMax))
    { shared := occupancy, generator := rest, effects := [.pause (.ofMicrosWord micros)] }

def criticalSection (maxHold : Span) : Section Occupancy where
  script worker pair := [
    change fun occupancy => .ok occupancy.enter,
    change (·.occupy pair.1 worker),
    change (·.occupy pair.2 worker),
    holdStep maxHold,
    change (·.free pair.2 worker),
    change (·.free pair.1 worker)]

end Occupancy

def Section.perform {σ : Type} :
    List (Section.Step σ) → σ → Random.Generator → Section.Outcome σ
  | [], shared, generator => { shared, generator }
  | act :: rest, shared, generator =>
      let outcome := act shared generator
      match outcome.fault with
      | some _ => outcome
      | none => perform rest outcome.shared outcome.generator

structure OccupancyRun where
  worker : Worker
  pair : Resource × Resource
deriving DecidableEq, Repr

def Occupancy.session (maxHold : Span) :
    List OccupancyRun → Occupancy → Random.Generator →
      List (Option Fault × Occupancy) × Random.Generator
  | [], _, generator => ([], generator)
  | run :: rest, occupancy, generator =>
      let script := (criticalSection maxHold).script run.worker run.pair
      let outcome := Section.perform script occupancy generator
      let (results, final) := session maxHold rest outcome.shared outcome.generator
      ((outcome.fault, outcome.shared) :: results, final)

end Contention
