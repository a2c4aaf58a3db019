import Contention.Monitor
import Contention.Phase.Summary
import Contention.Phase.Teardown
import Contention.Worker.Loop

namespace Contention

/-! One timed phase: the workers, the monitor, and the host that waits for the
end and tears the phase down.  Each of them is a thread of its own; any of them
may take the next step. -/

def pollInterval : Span := .ofMillisWord 10

inductive HostStage where
  | waiting
  | expired
  /-- About to read the clock and the reason. -/
  | stopping
  | joiningMonitor (elapsed : Span) (reason : EndReason)
  /-- About to compute when the grace runs out. -/
  | joiningWorkers (elapsed : Span) (reason : EndReason) (stall : Option Stall.Report)
  | polling (elapsed : Span) (reason : EndReason) (stall : Option Stall.Report)
      (teardown : Teardown)
  | summarising (elapsed : Span) (reason : EndReason) (stall : Option Stall.Report)
      (abandoned : List Straggler)
  | finished (summary : Phase.Summary)
  | failed (fault : Fault)
deriving Inhabited

structure Phase (σ : Type) where
  /-- Already raised to the minimums. -/
  config : Config
  regime : Regime σ
  system : System σ
  monitor : Monitor
  started : Instant
  deadline : Instant
  host : HostStage

inductive Actor where
  | host
  | monitor
  | worker (worker : Worker)
deriving DecidableEq, Repr

namespace Phase

variable {σ : Type}

structure Step (σ : Type) where
  phase : Phase σ
  effects : List Effect := []

def startEvent (config : Config) : Event where
  level := .info
  message := "Starting phase"
  fields := [
    ("mode", config.mode.name),
    ("pairing", config.pairing.name),
    ("resources", toString config.resources),
    ("workers", toString config.workers),
    ("stall_timeout", config.stallTimeout.text),
    ("duration", config.duration.text)]

def start (config : Config) (criticalSection : Section σ) (shared : σ) (now : Instant) :
    Except Fault (Phase σ × List Event) := do
  let (config, issues) := config.corrected
  let deadline ← now.after config.duration
  let phase := {
    config
    regime := {
      mode := config.mode
      pairing := config.pairing
      workload := config.workload
      criticalSection }
    system := .fresh config.resources config.workers config.seed shared now
    monitor := .create {
      stallTimeout := config.stallTimeout
      sampleInterval := config.sampleInterval }
    started := now
    deadline
    host := .waiting }
  return (phase, issues.map ConfigIssue.event ++ [startEvent config])

def workers (phase : Phase σ) : List Worker := team phase.config.workers

def actors (phase : Phase σ) : List Actor :=
  .host :: .monitor :: phase.workers.map Actor.worker

def setSignals (phase : Phase σ) (signals : Signals) : Phase σ :=
  { phase with system := { phase.system with signals } }

def setClock (phase : Phase σ) (now : Instant) : Phase σ :=
  { phase with system := { phase.system with clock := now } }

def halt (phase : Phase σ) (reason : EndReason) : Phase σ × Bool :=
  let request := phase.system.signals.halt reason
  (phase.setSignals request.signals, request.won)

/-- Lets go of a phase without waiting for its end: its threads are told to
stop. -/
def abandon (phase : Phase σ) : Phase σ :=
  if phase.system.signals.stopped then phase else (phase.halt .operator).1

def joinedEvent (worker : Worker) (count : Nat) : Event where
  level := .debug
  message := "Worker joined"
  fields := [("worker", worker.name), ("ops", toString count)]

def workerPanicEvent (worker : Worker) : Event where
  level := .warn
  message := "Worker thread panicked"
  fields := [("worker", worker.name)]

def monitorPanicEvent : Event where
  level := .warn
  message := "Monitor thread panicked"

def joinEvent (phase : Phase σ) (worker : Worker) : Event :=
  match phase.system.thread? worker with
  | some { stage := .exited, completed, .. } => joinedEvent worker completed
  | _ => workerPanicEvent worker

def stoppingEvent (reason : EndReason) (elapsed : Span) : Event where
  level := .debug
  message := "Phase stopping"
  fields := [("reason", reason.name), ("elapsed", elapsed.text)]

def summary (phase : Phase σ) (elapsed : Span) (reason : EndReason)
    (stall : Option Stall.Report) (abandoned : List Straggler) : Phase.Summary where
  mode := phase.config.mode
  pairing := phase.config.pairing
  resources := phase.config.resources
  workers := phase.config.workers
  timeoutSeconds := phase.config.stallTimeout.seconds
  durationSeconds := phase.config.duration.seconds
  total := phase.system.signals.total
  perWorker := phase.system.shop.board.completedByWorker
  elapsedSeconds := elapsed.seconds
  opsPerSecond := rate phase.system.signals.total elapsed.seconds
  reason := reason
  stall := stall
  abandoned := abandoned

def hostStep (phase : Phase σ) : Option (Step σ) :=
  let now := phase.system.clock
  let signals := phase.system.signals
  match phase.host with
  | .waiting =>
      match signals.poll phase.deadline now with
      | none => none
      | some none => some { phase := { phase with host := .expired } }
      | some (some _) => some { phase := { phase with host := .stopping } }
  | .expired =>
      let request := signals.halt .deadline
      some {
        phase := { phase.setSignals request.signals with host := .stopping }
        effects := [.log request.event] }
  | .stopping =>
      let elapsed := now.since phase.started
      let reason := signals.reason.getD .deadline
      some {
        phase := { phase with host := .joiningMonitor elapsed reason }
        effects := [.log (stoppingEvent reason elapsed)] }
  | .joiningMonitor elapsed reason =>
      match phase.monitor.outcome? with
      | none => none
      | some outcome =>
          let effects :=
            match outcome with
            | .failed _ => [Effect.log monitorPanicEvent]
            | _ => []
          some {
            phase := { phase with host := .joiningWorkers elapsed reason outcome.report? }
            effects }
  | .joiningWorkers elapsed reason stall =>
      match now.after phase.config.joinGrace with
      | .error fault => some { phase := { phase with host := .failed fault } }
      | .ok deadline =>
          let teardown := { deadline, pending := phase.workers : Teardown }
          some { phase := { phase with host := .polling elapsed reason stall teardown } }
  | .polling elapsed reason stall teardown =>
      let looked := teardown.look phase.system.hasEnded
      let joined := looked.joined.drop teardown.joined.length
      let logs := joined.map fun worker => Effect.log (phase.joinEvent worker)
      if looked.isOver now then
        let abandoned := looked.pending.filterMap fun worker =>
          (phase.system.shop.board.snapshot? worker now).map Straggler.ofSnapshot
        some {
          phase := { phase with host := .summarising elapsed reason stall abandoned }
          effects := logs }
      else
        some {
          phase := { phase with host := .polling elapsed reason stall looked }
          effects := logs ++ [.pause pollInterval] }
  | .summarising elapsed reason stall abandoned =>
      let summary := phase.summary elapsed reason stall abandoned
      some {
        phase := { phase with host := .finished summary }
        effects := summary.events.map Effect.log }
  | .finished _ => none
  | .failed _ => none

def monitorStep (phase : Phase σ) : Option (Step σ) :=
  let system := phase.system
  (phase.monitor.step system.shop.board system.signals system.clock).map fun next => {
    phase := { phase.setSignals next.signals with monitor := next.monitor }
    effects := next.events.map Effect.log }

def workerStep (phase : Phase σ) (worker : Worker) : Option (Step σ) :=
  (phase.system.step phase.regime worker).map fun next => {
    phase := { phase with system := next.system }
    effects := next.effects }

def step (phase : Phase σ) : Actor → Option (Step σ)
  | .host => phase.hostStep
  | .monitor => phase.monitorStep
  | .worker worker => phase.workerStep worker

def isOver (phase : Phase σ) : Bool :=
  match phase.host with
  | .finished _ => true
  | .failed _ => true
  | _ => false

def result? (phase : Phase σ) : Option (Except Fault Phase.Summary) :=
  match phase.host with
  | .finished summary => some (.ok summary)
  | .failed fault => some (.error fault)
  | _ => none

/-- No worker has ended and none can take a step. -/
def isGridlocked (phase : Phase σ) : Bool :=
  phase.workers.all fun worker =>
    !phase.system.hasEnded worker && !phase.system.canMove phase.regime worker

def debugText (phase : Phase σ) : String :=
  let stopped := if phase.system.signals.stopped then "true" else "false"
  "Phase \x7b mode: " ++ phase.config.mode.debugName ++
    s!", resources: {phase.system.resources}, workers: {phase.system.shop.board.size}" ++
    ", stopped: " ++ stopped ++ " \x7d"

end Phase

end Contention
