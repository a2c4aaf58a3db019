import Contention.Occupancy
import Contention.Phase.Timeline

namespace Contention

inductive PhaseAction where
  | stop
  /-- The section asks for a stop when it is entered for the `entries`th time. -/
  | limit (entries : Nat)
  /-- The sections of these workers fail; when all have, a stop is requested. -/
  | fail (workers : List Worker)
  | deadlock
deriving DecidableEq, Repr

structure Observation where
  occupancy : Occupancy
  completed : Nat := 0
deriving DecidableEq, Repr

structure PhaseTrial where
  config : Config
  action : PhaseAction

structure PhaseTrialResult where
  config : Config
  before : String
  after : String
  reached : Option Bool
  stops : List Bool
  summary : Phase.Summary
  final : Phase Observation
  monotonic : Bool
  events : List Event

namespace PhaseTrial

def onOccupancy (act : Section.Step Occupancy) : Section.Step Observation :=
  fun observation generator =>
    let outcome := act observation.occupancy generator
    { shared := { observation with occupancy := outcome.shared }
      generator := outcome.generator
      effects := outcome.effects
      request := outcome.request
      fault := outcome.fault }

def enterStep (action : PhaseAction) (worker : Worker) : Section.Step Observation :=
  fun observation generator =>
    let occupancy := observation.occupancy.enter
    let entered := { observation with occupancy }
    match action with
    | .limit entries =>
        { shared := entered
          generator
          request := if occupancy.entries = entries then some .operator else none }
    | .fail workers =>
        { shared := if workers.contains worker then observation else entered
          generator
          fault := if workers.contains worker then some (.sectionFailed "section failed")
            else none }
    | _ => { shared := entered, generator }

def leaveStep : Section.Step Observation :=
  fun observation generator =>
    { shared := { observation with completed := observation.completed + 1 }, generator }

def criticalSection (trial : PhaseTrial) : Section Observation where
  script worker pair := [
    enterStep trial.action worker,
    onOccupancy (Occupancy.change (·.occupy pair.1 worker)),
    onOccupancy (Occupancy.change (·.occupy pair.2 worker)),
    onOccupancy (Occupancy.change (·.free pair.2 worker)),
    onOccupancy (Occupancy.change (·.free pair.1 worker)),
    leaveStep]

def start (trial : PhaseTrial) : Except Fault (Phase Observation × List Event) :=
  let observation := { occupancy := .ofSize trial.config.clamped.resources : Observation }
  Phase.start trial.config trial.criticalSection observation .origin

def untilReady (action : PhaseAction) (phase : Phase Observation) : Bool :=
  match action with
  | .stop => true
  | .limit _ => phase.system.signals.stopped
  | .fail workers => workers.all phase.system.hasEnded
  | .deadlock => phase.isGridlocked

def stepBudget : Nat := 1000000

def stopTwice (phase : Phase Observation) : Phase Observation × List Bool :=
  let (once, first) := phase.halt .operator
  let (twice, second) := once.halt .operator
  (twice, [first, second])

/-- There is no result if the steps are used up before the phase is over. -/
def run (trial : PhaseTrial) : Except Fault (Option PhaseTrialResult) := do
  let (phase, startEvents) ← trial.start
  let ready := (Timeline.start phase).runUntil (untilReady trial.action) stepBudget
  let (stopped, stops) :=
    match trial.action with
    | .limit _ => (ready.phase, [])
    | _ => stopTwice ready.phase
  let final :=
    { ready with phase := stopped : Timeline Observation }.runUntil Phase.isOver stepBudget
  match final.phase.result? with
  | none => return none
  | some result =>
      let summary ← result
      return some {
        config := phase.config
        before := phase.debugText
        after := stopped.debugText
        reached :=
          match trial.action with
          | .deadlock => some ready.phase.isGridlocked
          | _ => none
        stops
        summary
        final := final.phase
        monotonic := decide (stopped.system.signals.total ≤ final.phase.system.signals.total)
        events := startEvents ++ final.heard.reverse }

end PhaseTrial

end Contention
