import Contention.Board
import Contention.Event
import Contention.Pool
import Contention.WaitGraph.Cycles

namespace Contention

/-! Slots that acquire and release resources, cut into the steps that nothing can
come between: one write to a record, or one lock or unlock.  Between two steps
of one slot any number of steps of others may happen.

A slot announces a resource before its lock call and withdraws the
announcement after the resource is on record; it takes a resource off the
record before it unlocks it. -/

structure Site where
  pool : Nat
  resource : Resource
deriving DecidableEq, Repr

/-- Ownership of one locked resource.  Guards are numbered as they are made. -/
structure Guard where
  number : Nat
  site : Site
  /-- The worker through whose slot the resource was acquired. -/
  taker : Worker
deriving DecidableEq, Repr

inductive Activity where
  | idle
  /-- Announced; the lock call has been made and has not returned. -/
  | locking (site : Site)
  | recording (guard : Guard)
  /-- On record, still announced. -/
  | settling (guard : Guard)
  /-- The second cell has moved up and is not yet emptied. -/
  | shifting (guard : Guard)
  | unlocking (guard : Guard)
deriving DecidableEq, Repr

structure Workshop where
  board : Board
  pools : List Pool
  /-- The live guards, oldest first. -/
  guards : List Guard
  made : Nat
  activities : List Activity
deriving DecidableEq, Repr

namespace Workshop

def fresh (workers : Nat) (sizes : List Nat) (epoch : Instant) : Workshop where
  board := .ofSize workers epoch
  pools := sizes.map Pool.ofSize
  guards := []
  made := 0
  activities := List.replicate workers .idle

def activity (shop : Workshop) (worker : Worker) : Activity :=
  (shop.activities[worker.index]?).getD .idle

def setActivity (shop : Workshop) (worker : Worker) (activity : Activity) : Workshop :=
  { shop with activities := shop.activities.set worker.index activity }

def rewrite (shop : Workshop) (worker : Worker) (change : Record → Record) : Workshop :=
  { shop with board := shop.board.update worker change }

def isHeld (shop : Workshop) (site : Site) : Bool :=
  match shop.pools[site.pool]? with
  | some pool => pool.isHeld site.resource
  | none => false

def lock (shop : Workshop) (worker : Worker) (site : Site) : Workshop × Guard :=
  let guard := { number := shop.made, site, taker := worker }
  ({ shop with
      pools := shop.pools.modify site.pool (·.lock site.resource)
      guards := shop.guards ++ [guard]
      made := shop.made + 1 }, guard)

/-- Uses up a guard, which frees its resource and tells no slot. -/
def free (shop : Workshop) (guard : Guard) : Workshop :=
  { shop with
    pools := shop.pools.modify guard.site.pool (·.unlock guard.site.resource)
    guards := shop.guards.filter fun other => decide (other.number ≠ guard.number) }

def guardsOf (shop : Workshop) (worker : Worker) : List Guard :=
  shop.guards.filter fun guard => decide (guard.taker = worker)

def guard? (shop : Workshop) (number : Nat) : Option Guard :=
  shop.guards.find? fun guard => guard.number == number

/-- The guard of a worker for a resource, whatever its pool. -/
def guardFor? (shop : Workshop) (worker : Worker) (resource : Resource) : Option Guard :=
  (shop.guardsOf worker).find? fun guard => decide (guard.site.resource = resource)

structure Step where
  shop : Workshop
  events : List Event := []
  fault : Option Fault := none
deriving DecidableEq, Repr

def slotEvent (message : String) (worker : Worker) (resource : Resource) : Event where
  level := .trace
  message := message
  fields := [("worker", worker.name), ("resource", resource.name)]

def beginAcquire (shop : Workshop) (worker : Worker) (site : Site) : Step :=
  match shop.board.record? worker with
  | none => { shop, fault := some (.outOfBounds shop.board.size worker.index) }
  | some record =>
      match record.second with
      | some _ => { shop, fault := some (.alreadyHoldsTwo worker) }
      | none => {
          shop := (shop.rewrite worker (·.publish site.resource)).setActivity worker (.locking site)
          events := [slotEvent "Waiting for resource" worker site.resource] }

/-- Takes a guard's resource off the record, or moves the second cell over it if
it stands in the first.  A resource that is not on record is unlocked all the
same. -/
def beginRelease (shop : Workshop) (worker : Worker) (guard : Guard) : Step :=
  match shop.board.record? worker with
  | none => { shop, fault := some (.outOfBounds shop.board.size worker.index) }
  | some record =>
      let resource := guard.site.resource
      if record.second = cellOf resource then
        { shop := (shop.rewrite worker Record.clearSecond).setActivity worker (.unlocking guard) }
      else if record.first = cellOf resource then
        { shop := (shop.rewrite worker Record.moveUp).setActivity worker (.shifting guard) }
      else {
        shop := shop.free guard
        fault := some (.neverRecorded worker resource record.first) }

/-- The next step of a slot in the middle of something.  There is none while the
resource that it wants is held. -/
def advance (shop : Workshop) (worker : Worker) : Option Step :=
  match shop.activity worker with
  | .idle => none
  | .locking site =>
      let size := (shop.pools[site.pool]?.map Pool.size).getD 0
      if size ≤ site.resource.index then
        some {
          shop := shop.setActivity worker .idle
          fault := some (.outOfBounds size site.resource.index) }
      else if shop.isHeld site then none
      else
        let (locked, guard) := shop.lock worker site
        some { shop := locked.setActivity worker (.recording guard) }
  | .recording guard =>
      some { shop := (shop.rewrite worker (·.note guard.site.resource)).setActivity worker
              (.settling guard) }
  | .settling guard =>
      some {
        shop := (shop.rewrite worker Record.settle).setActivity worker .idle
        events := [slotEvent "Acquired resource" worker guard.site.resource] }
  | .shifting guard =>
      some { shop := (shop.rewrite worker Record.clearSecond).setActivity worker
              (.unlocking guard) }
  | .unlocking guard =>
      some {
        shop := (shop.free guard).setActivity worker .idle
        events := [slotEvent "Released resource" worker guard.site.resource] }

/-- More steps than any acquire or release takes after its first. -/
def operationLength : Nat := 4

def settle (worker : Worker) : Nat → Step → Step
  | 0, step => step
  | fuel + 1, step =>
      match step.fault with
      | some _ => step
      | none =>
          match step.shop.advance worker with
          | none => step
          | some next => settle worker fuel { next with events := step.events ++ next.events }

/-- An acquire with nothing in between, up to its end or until it blocks. -/
def acquire (shop : Workshop) (worker : Worker) (site : Site) : Step :=
  settle worker operationLength (shop.beginAcquire worker site)

def release (shop : Workshop) (worker : Worker) (guard : Guard) : Step :=
  settle worker operationLength (shop.beginRelease worker guard)

def resume (shop : Workshop) (worker : Worker) : Step :=
  settle worker operationLength { shop }

def complete (shop : Workshop) (worker : Worker) (now : Instant) : Workshop :=
  shop.rewrite worker (·.complete now)

/-- Workers whose lock call for a resource has not returned. -/
def waitersFor (shop : Workshop) (site : Site) : List Worker :=
  (team shop.activities.length).filter fun worker =>
    decide (shop.activity worker = .locking site)

def isIdle (shop : Workshop) (worker : Worker) : Bool :=
  decide (shop.activity worker = .idle)

def graph (shop : Workshop) (now : Instant) : WaitGraph :=
  .ofSnapshots (shop.board.snapshots now)

end Workshop

end Contention
