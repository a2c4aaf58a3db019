import Contention.Monitor
import Contention.Workshop.Basic

namespace Contention

/-! One thread for each worker, all contending for one pool.  A blocked worker
does nothing until the resource is handed to it.  Two workers that each hold their
own resource before either asks for the other's come to a standoff. -/

structure Contest where
  shop : Workshop
  signals : Signals
deriving Repr

namespace Contest

inductive Command where
  | acquire (worker : Worker) (resource : Resource)
  | release (worker : Worker) (resource : Resource)
  | complete (worker : Worker)
  | record
  | stop (reason : EndReason)
  | monitor (stallTimeout : Span)
deriving DecidableEq, Repr

inductive Answer where
  | acquired
  | blocked
  | fault (fault : Fault)
  | released
  | releasedTo (worker : Worker) (result : Answer)
  | notHeld
  | severalWaiters
  | busy
  | count (number : Nat)
  | stopped (won : Bool)
  | watched (outcome : Option Monitor.Outcome) (reason : Option EndReason)

structure Reply where
  contest : Contest
  answer : Answer

def fresh (workers resources : Nat) : Contest where
  shop := .fresh workers [resources] .origin
  signals := {}

def site (resource : Resource) : Site := { pool := 0, resource }

def acquireAnswer (worker : Worker) (step : Workshop.Step) : Answer :=
  match step.fault with
  | some fault => .fault fault
  | none => if step.shop.isIdle worker then .acquired else .blocked

/-- Lets the only waiter of a freed resource go on. -/
def handOver (contest : Contest) (waiters : List Worker) : Reply :=
  match waiters with
  | [] => { contest, answer := .released }
  | waiter :: _ =>
      let step := contest.shop.resume waiter
      { contest := { contest with shop := step.shop }
        answer := .releasedTo waiter (acquireAnswer waiter step) }

def release (contest : Contest) (worker : Worker) (resource : Resource) : Reply :=
  match contest.shop.waitersFor (site resource) with
  | _ :: _ :: _ => { contest, answer := .severalWaiters }
  | waiters =>
      match contest.shop.guardFor? worker resource with
      | none => { contest, answer := .notHeld }
      | some guard =>
          let step := contest.shop.release worker guard
          match step.fault with
          | some fault => { contest := { contest with shop := step.shop }, answer := .fault fault }
          | none => handOver { contest with shop := step.shop } waiters

def perform (contest : Contest) : Command → Reply
  | .acquire worker resource =>
      if contest.shop.isIdle worker then
        let step := contest.shop.acquire worker (site resource)
        { contest := { contest with shop := step.shop }, answer := acquireAnswer worker step }
      else { contest, answer := .busy }
  | .release worker resource =>
      if contest.shop.isIdle worker then contest.release worker resource
      else { contest, answer := .busy }
  | .complete worker =>
      if contest.shop.isIdle worker then
        let shop := contest.shop.complete worker .origin
        { contest := { contest with shop }
          answer := .count (((shop.board.record? worker).map (·.completed)).getD 0) }
      else { contest, answer := .busy }
  | .record =>
      let signals := contest.signals.record
      { contest := { contest with signals }, answer := .count signals.total }
  | .stop reason =>
      let request := contest.signals.halt reason
      { contest := { contest with signals := request.signals }, answer := .stopped request.won }
  | .monitor stallTimeout =>
      let config := { stallTimeout, sampleInterval := .ofMillisWord 1 : Monitor.Settings }
      let (outcome, signals) := config.watch contest.shop.board contest.signals .origin
      { contest := { contest with signals }
        answer := .watched outcome signals.reason }

def session (contest : Contest) : List Command → List Reply
  | [] => []
  | command :: rest =>
      let reply := contest.perform command
      reply :: reply.contest.session rest

end Contest

namespace Standoff

def firstWorker : Worker := { index := 0 }

def secondWorker : Worker := { index := 1 }

def commands : List Contest.Command := [
  .acquire firstWorker { index := 0 },
  .acquire secondWorker { index := 1 },
  .acquire firstWorker { index := 1 },
  .acquire secondWorker { index := 0 }]

def contest : Contest :=
  commands.foldl (fun contest command => (contest.perform command).contest) (.fresh 2 2)

def isBlocked (contest : Contest) : Bool :=
  (contest.shop.board.snapshots .origin).countP Snapshot.holdsAndWaits == 2

/-- Polls until both workers are seen blocked; a look is taken only while the
deadline has not come. -/
def seenBlocked (contest : Contest) (now deadline : Instant) : Bool :=
  !decide (deadline ≤ now) && isBlocked contest

end Standoff

end Contention
