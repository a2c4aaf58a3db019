import Contention.Signals.Session

namespace Contention

/-! Calls on the signals of a phase that run side by side, cut into the steps that nothing
can come between: one access to a cell, or one lock or unlock.  The count and the flag are
read and written without a lock.  The reason has one, and a stop request keeps it from its
look at the reason until the flag is set. -/

namespace Signals

inductive Ask where
  | record
  | stop (reason : EndReason)
  | isStopped
  | why
deriving DecidableEq, Repr

inductive Call.Stage where
  | count
  | test
  /-- Take the lock of the reason, with a request to be recorded or only to read. -/
  | lock (request : Option EndReason)
  | look (request : Option EndReason)
  | write (reason : EndReason)
  | flag (reason : EndReason)
  | wake
  | unlock (answer : Answer)
  | leave (answer : Answer)
  | returned (answer : Answer)
deriving DecidableEq, Repr

def Call.Stage.hasReturned : Call.Stage → Bool
  | .returned _ => true
  | _ => false

def Ask.entry : Ask → Call.Stage
  | .record => .count
  | .stop reason => .lock (some reason)
  | .isStopped => .test
  | .why => .lock none

structure Call where
  thread : Nat
  ask : Ask
  stage : Call.Stage
deriving DecidableEq, Repr

structure Traffic where
  signals : Signals := {}
  /-- The number of the call that has the lock of the reason. -/
  holder : Option Nat := none
  calls : List Call := []
deriving DecidableEq, Repr

namespace Traffic

def goTo (traffic : Traffic) (number : Nat) (stage : Call.Stage) : Traffic :=
  { traffic with calls := traffic.calls.modify number fun call => { call with stage } }

def isBusy (traffic : Traffic) (thread : Nat) : Bool :=
  traffic.calls.any fun call => decide (call.thread = thread) && !call.stage.hasReturned

def call (traffic : Traffic) (thread : Nat) (ask : Ask) : Option Traffic :=
  if traffic.isBusy thread then none
  else some { traffic with calls := traffic.calls ++ [{ thread, ask, stage := ask.entry }] }

def stage? (traffic : Traffic) (number : Nat) : Option Call.Stage :=
  (traffic.calls[number]?).map (·.stage)

/-- The next step of a call.  There is none while another has the lock that it wants and
after it has returned. -/
def step (traffic : Traffic) (number : Nat) : Option Traffic :=
  match traffic.stage? number with
  | none => none
  | some .count =>
      let counted := traffic.signals.record
      some { traffic.goTo number (.leave (.count counted.total)) with signals := counted }
  | some .test => some (traffic.goTo number (.leave (.truth traffic.signals.stopped)))
  | some (.lock request) =>
      match traffic.holder with
      | none => some { traffic.goTo number (.look request) with holder := some number }
      | some _ => none
  | some (.look none) => some (traffic.goTo number (.unlock (.reason traffic.signals.reason)))
  | some (.look (some reason)) =>
      match traffic.signals.reason with
      | none => some (traffic.goTo number (.write reason))
      | some _ => some (traffic.goTo number (.unlock (.truth false)))
  | some (.write reason) =>
      let signals := { traffic.signals with reason := some reason }
      some { traffic.goTo number (.flag reason) with signals }
  | some (.flag _) =>
      let signals := { traffic.signals with stopped := true }
      some { traffic.goTo number .wake with signals }
  | some .wake => some (traffic.goTo number (.unlock (.truth true)))
  | some (.unlock answer) => some { traffic.goTo number (.leave answer) with holder := none }
  | some (.leave answer) => some (traffic.goTo number (.returned answer))
  | some (.returned _) => none

inductive Move where
  | call (thread : Nat) (ask : Ask)
  | step (number : Nat)
deriving DecidableEq, Repr

def after (traffic : Traffic) : Move → Option Traffic
  | .call thread ask => traffic.call thread ask
  | .step number => traffic.step number

def run (traffic : Traffic) (moves : List Move) : Option Traffic := moves.foldlM after traffic

end Traffic

end Signals

end Contention
