import Contention.Config
import Contention.Plan
import Contention.Signals.Basic
import Contention.Worker.Section
import Contention.Workshop.Basic

namespace Contention

open Contention.Random

/-! The loop of a worker, one indivisible step at a time: it takes its two
resources, runs the critical section, counts the cycle and lets the resources
go, until it sees the stop flag.  The flag is looked at between cycles and right
after each acquire; a worker blocked in an acquire is never interrupted. -/

structure Regime (σ : Type) where
  mode : Mode
  pairing : Pairing
  workload : Workload
  criticalSection : Section σ

inductive Turn where
  | first
  | second
deriving DecidableEq, Repr

def Turn.of (turn : Turn) (pair : Resource × Resource) : Resource :=
  match turn with
  | .first => pair.1
  | .second => pair.2

inductive Onward where
  | leave
  | rest (count : Nat)
deriving DecidableEq, Repr

/-- What a worker does next, once its slot is idle. -/
inductive Stage where
  | start
  | check
  | think
  | take (turn : Turn)
  | recheck (turn : Turn)
  | gap
  /-- In the critical section with this many steps behind it. -/
  | inside (done : Nat)
  | count
  /-- Count the worker's `count`th cycle in the signals. -/
  | total (count : Nat)
  | give (turn : Turn) (onward : Onward)
  | rest (count : Nat)
  | leave
  | exited
  | unwind (fault : Fault)
  | failed (fault : Fault)
deriving DecidableEq, Repr

structure Thread where
  stage : Stage := .start
  generator : Generator
  /-- The count that the worker will return. -/
  completed : Nat := 0
deriving DecidableEq, Repr

def Thread.hasEnded (thread : Thread) : Bool :=
  match thread.stage with
  | .exited => true
  | .failed _ => true
  | _ => false

structure System (σ : Type) where
  shop : Workshop
  signals : Signals
  shared : σ
  clock : Instant
  threads : List Thread

namespace System

variable {σ : Type}

/-- Workers on fresh slots over one pool of free resources.  A worker's generator
comes from the common seed and the worker's own number. -/
def fresh (resources workers : Nat) (seed : UInt64) (shared : σ) (clock : Instant) : System σ where
  shop := .fresh workers [resources] clock
  signals := {}
  shared := shared
  clock := clock
  threads := (List.range workers).map fun index =>
    { generator := .ofSeed seed (UInt64.ofNat index) }

def thread? (system : System σ) (worker : Worker) : Option Thread :=
  system.threads[worker.index]?

def setThread (system : System σ) (worker : Worker) (thread : Thread) : System σ :=
  { system with threads := system.threads.set worker.index thread }

def resources (system : System σ) : Nat := (system.shop.pools.head?.map Pool.size).getD 0

def site (resource : Resource) : Site := { pool := 0, resource }

structure Step (σ : Type) where
  system : System σ
  effects : List Effect := []

def startedEvent (regime : Regime σ) (pair : Resource × Resource) : Event where
  level := .debug
  message := "Worker started"
  fields := [
    ("mode", regime.mode.name), ("pairing", regime.pairing.name),
    ("a", pair.1.name), ("b", pair.2.name)]

def cycleEvent (count total : Nat) : Event where
  level := .trace
  message := "Cycle complete"
  fields := [("ops", toString count), ("total", toString total)]

def exitingEvent (completed : Nat) : Event where
  level := .debug
  message := "Worker exiting"
  fields := [("ops", toString completed)]

/-- What a step of the slot does to its worker: a sudden end starts the
unwinding. -/
def ofShopStep (system : System σ) (worker : Worker) (thread : Thread) (step : Workshop.Step) :
    Step σ :=
  let moved := { system with shop := step.shop }
  let effects := step.events.map Effect.log
  match step.fault with
  | none => { system := moved.setThread worker thread, effects }
  | some fault =>
      { system := moved.setThread worker { thread with stage := .unwind fault }, effects }

def pauseStep (system : System σ) (worker : Worker) (thread : Thread) (range : Delay)
    (next : Thread → Thread) : Step σ :=
  match range.draw thread.generator with
  | .error fault =>
      { system := system.setThread worker { thread with stage := .unwind fault } }
  | .ok (length, generator) => {
      system := system.setThread worker (next { thread with generator })
      effects := [.pause length] }

def sectionStep (system : System σ) (worker : Worker) (thread : Thread)
    (script : List (Section.Step σ)) (done : Nat) : Step σ :=
  match script[done]? with
  | none => { system := system.setThread worker { thread with stage := .count } }
  | some act =>
      let outcome := act system.shared thread.generator
      let stage :=
        match outcome.fault with
        | none => Stage.inside (done + 1)
        | some fault => .unwind fault
      let moved := { system with shared := outcome.shared }.setThread worker
        { thread with generator := outcome.generator, stage }
      match outcome.request with
      | none => { system := moved, effects := outcome.effects }
      | some reason =>
          let request := moved.signals.halt reason
          { system := { moved with signals := request.signals }
            effects := outcome.effects ++ [.log request.event] }

/-- The next step of a worker whose slot is idle.  `chosen` is the pair that its
pairing names, `pair` the same in acquisition order. -/
def loopStep (regime : Regime σ) (system : System σ) (worker : Worker) (thread : Thread)
    (chosen pair : Resource × Resource) : Option (Step σ) :=
  let goTo := fun stage => system.setThread worker { thread with stage }
  match thread.stage with
  | .start => some { system := goTo .check, effects := [.log (startedEvent regime chosen)] }
  | .check => some { system := goTo (if system.signals.stopped then .leave else .think) }
  | .think =>
      some (system.pauseStep worker thread regime.workload.think
        fun thread => { thread with stage := .take .first })
  | .take turn =>
      some (system.ofShopStep worker { thread with stage := .recheck turn }
        (system.shop.beginAcquire worker (site (turn.of pair))))
  | .recheck turn =>
      let onward :=
        match turn with
        | .first => Stage.gap
        | .second => .inside 0
      some { system := goTo (if system.signals.stopped then .give turn .leave else onward) }
  | .gap =>
      some (system.pauseStep worker thread regime.workload.gap
        fun thread => { thread with stage := .take .second })
  | .inside done =>
      some (system.sectionStep worker thread (regime.criticalSection.script worker pair) done)
  | .count =>
      let shop := system.shop.complete worker system.clock
      let count := ((shop.board.record? worker).map (·.completed)).getD 0
      some { system := { system with shop }.setThread worker { thread with stage := .total count } }
  | .total count =>
      let signals := system.signals.record
      some {
        system := { system with signals }.setThread worker
          { thread with stage := .give .second (.rest count) }
        effects := [.log (cycleEvent count signals.total)] }
  | .give turn onward =>
      match system.shop.guardFor? worker (turn.of pair) with
      | none => none
      | some guard =>
          let stage :=
            match turn, onward with
            | .second, _ => Stage.give .first onward
            | .first, .leave => .leave
            | .first, .rest count => .rest count
          some (system.ofShopStep worker { thread with stage }
            (system.shop.beginRelease worker guard))
  | .rest count =>
      some (system.pauseStep worker thread regime.workload.rest
        fun thread => { thread with stage := .check, completed := count })
  | .leave =>
      some { system := goTo .exited, effects := [.log (exitingEvent thread.completed)] }
  | .unwind fault =>
      match (system.shop.guardsOf worker).getLast? with
      | none => some { system := goTo (.failed fault) }
      | some guard => some { system := { system with shop := system.shop.free guard } }
  | .exited => none
  | .failed _ => none

/-- The next step of a worker.  There is none while it is blocked and after it has
ended. -/
def step (regime : Regime σ) (system : System σ) (worker : Worker) : Option (Step σ) :=
  match system.thread? worker with
  | none => none
  | some thread =>
      if system.shop.isIdle worker then
        match regime.pairing.pairFor worker system.resources with
        | .ok chosen =>
            loopStep regime system worker thread chosen (regime.mode.arrange worker chosen)
        | .error fault =>
            if thread.hasEnded then none
            else some { system := system.setThread worker { thread with stage := .failed fault } }
      else (system.shop.advance worker).map (system.ofShopStep worker thread)

def halt (system : System σ) (reason : EndReason) : System σ :=
  { system with signals := (system.signals.halt reason).signals }

def canMove (regime : Regime σ) (system : System σ) (worker : Worker) : Bool :=
  (system.step regime worker).isSome

def hasEnded (system : System σ) (worker : Worker) : Bool :=
  match system.thread? worker with
  | some thread => thread.hasEnded
  | none => true

def runOne (regime : Regime σ) (worker : Worker) : Nat → System σ → Step σ
  | 0, system => { system }
  | fuel + 1, system =>
      match system.step regime worker with
      | none => { system }
      | some first =>
          let rest := runOne regime worker fuel first.system
          { system := rest.system, effects := first.effects ++ rest.effects }

end System

end Contention
