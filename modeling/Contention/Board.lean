import Contention.Snapshot
import Contention.Sum
import Contention.Time.Instant

namespace Contention

/-- Two cells for what is held, first acquired first, and one for what is waited
for. -/
structure Record where
  first : Option Resource := none
  second : Option Resource := none
  awaiting : Option Resource := none
  lastProgress : Instant
  completed : Nat := 0
deriving DecidableEq, Repr, Inhabited

/-- What a cell holds after a resource is written to it: the largest word is the
mark of an empty cell. -/
def cellOf (resource : Resource) : Option Resource :=
  if resource.index = wordMax then none else some resource

namespace Record

def fresh (epoch : Instant) : Record := { lastProgress := epoch }

def held (record : Record) : Holding := .ofCells record.first record.second

def publish (record : Record) (resource : Resource) : Record :=
  { record with awaiting := cellOf resource }

def note (record : Record) (resource : Resource) : Record :=
  match record.first with
  | none => { record with first := cellOf resource }
  | some _ => { record with second := cellOf resource }

def settle (record : Record) : Record := { record with awaiting := none }

def clearSecond (record : Record) : Record := { record with second := none }

/-- Writes the second cell over the first, so that both are equal until the
second is emptied. -/
def moveUp (record : Record) : Record := { record with first := record.second }

def complete (record : Record) (now : Instant) : Record :=
  { record with lastProgress := now, completed := record.completed + 1 }

def snapshot (record : Record) (worker : Worker) (now : Instant) : Snapshot where
  worker := worker
  held := record.held
  awaiting := record.awaiting
  sinceProgress := (now.since record.lastProgress).seconds
  completed := record.completed

end Record

structure Board where
  records : List Record
deriving DecidableEq, Repr, Inhabited

namespace Board

def ofSize (workers : Nat) (epoch : Instant) : Board :=
  { records := List.replicate workers (.fresh epoch) }

def size (board : Board) : Nat := board.records.length

def isEmpty (board : Board) : Bool := board.records.isEmpty

def record? (board : Board) (worker : Worker) : Option Record :=
  board.records[worker.index]?

/-- Rewrites one record; a worker that is not on the board changes nothing. -/
def update (board : Board) (worker : Worker) (change : Record → Record) : Board :=
  { records := board.records.modify worker.index change }

def snapshot? (board : Board) (worker : Worker) (now : Instant) : Option Snapshot :=
  (board.record? worker).map fun record => record.snapshot worker now

def snapshots (board : Board) (now : Instant) : List Snapshot :=
  (team board.size).filterMap fun worker => board.snapshot? worker now

def completedByWorker (board : Board) : List Nat := board.records.map (·.completed)

def completedSum (board : Board) : Except Fault Nat := sumWords board.completedByWorker

theorem record?_update (board : Board) (worker other : Worker) (change : Record → Record) :
    (board.update worker change).record? other =
      if worker = other then (board.record? other).map change else board.record? other := by
  cases worker
  cases other
  simp only [record?, update, List.getElem?_modify, Worker.mk.injEq]
  split <;> simp

@[simp] theorem size_update (board : Board) (worker : Worker) (change : Record → Record) :
    (board.update worker change).size = board.size := by
  simp [size, update]

end Board

end Contention
