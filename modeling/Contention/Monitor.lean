import Contention.Board
import Contention.Signals.Basic
import Contention.Stall.Detector
import Contention.Stall.Report

namespace Contention

/-! Watches the count of completed operations and stops the phase when it stands
still.  It reads records and counters and owns no resource, so nothing that a
worker does can hold it up. -/

structure Monitor.Settings where
  stallTimeout : Span := .ofSecondsWord 3
  sampleInterval : Span := .ofMillisWord 200
deriving DecidableEq, Repr, Inhabited

inductive Monitor.Outcome where
  | stalled (report : Stall.Report)
  | stopped
  | failed (fault : Fault)
deriving Inhabited

def Monitor.Outcome.report? : Monitor.Outcome → Option Stall.Report
  | .stalled report => some report
  | .stopped => none
  | .failed _ => none

namespace Monitor

inductive Stage where
  /-- About to look at the clock, from which the samples are timed. -/
  | starting
  | opening
  /-- About to compute when its sleep ends. -/
  | ready
  | sleeping (deadline : Instant)
  | reading
  /-- About to look at the clock and judge the sample. -/
  | judging (count : Nat)
  | capturing (count : Nat)
  | requesting (report : Stall.Report)
  | finished (outcome : Monitor.Outcome)
deriving Inhabited

end Monitor

structure Monitor where
  settings : Monitor.Settings
  detector : Stall.Detector
  epoch : Instant
  stage : Monitor.Stage

namespace Monitor

def create (settings : Monitor.Settings) : Monitor where
  settings := settings
  detector := .start settings.stallTimeout 0 .zero
  epoch := .origin
  stage := .starting

structure Step where
  monitor : Monitor
  signals : Signals
  events : List Event := []

def outcome? (monitor : Monitor) : Option Monitor.Outcome :=
  match monitor.stage with
  | .finished outcome => some outcome
  | _ => none

def watchingEvent (settings : Monitor.Settings) : Event where
  level := .info
  message := "Monitor watching"
  fields := [
    ("stall_timeout", settings.stallTimeout.text),
    ("sample_interval", settings.sampleInterval.text)]

def stoppedEvent (total : Nat) : Event where
  level := .debug
  message := "Phase stopped before any stall"
  fields := [("ops", toString total)]

def lateEvent : Event where
  level := .warn
  message := "Stall declared after the phase was already stopping"

/-- The next step at time `now`.  There is none while the monitor sleeps and
after it has finished. -/
def step (monitor : Monitor) (board : Board) (signals : Signals) (now : Instant) : Option Step :=
  match monitor.stage with
  | .starting =>
      some { monitor := { monitor with epoch := now, stage := .opening }, signals }
  | .opening =>
      some {
        monitor := { monitor with
          detector := .start monitor.settings.stallTimeout signals.total .zero
          stage := .ready }
        signals
        events := [watchingEvent monitor.settings] }
  | .ready =>
      match now.after monitor.settings.sampleInterval with
      | .ok deadline => some { monitor := { monitor with stage := .sleeping deadline }, signals }
      | .error fault =>
          some { monitor := { monitor with stage := .finished (.failed fault) }, signals }
  | .sleeping deadline =>
      match signals.poll deadline now with
      | none => none
      | some none => some { monitor := { monitor with stage := .reading }, signals }
      | some (some _) =>
          some {
            monitor := { monitor with
              detector := monitor.detector.close
              stage := .finished .stopped }
            signals
            events := [stoppedEvent signals.total] }
  | .reading => some { monitor := { monitor with stage := .judging signals.total }, signals }
  | .judging count =>
      let (detector, events) := monitor.detector.observe (now.since monitor.epoch) count
      match detector.state with
      | .stalled =>
          some { monitor := { monitor with detector, stage := .capturing count }, signals, events }
      | _ => some { monitor := { monitor with detector, stage := .ready }, signals, events }
  | .capturing count =>
      let report := Stall.Report.ofSnapshots (board.snapshots now) monitor.settings.stallTimeout
        monitor.detector.idle count
      some {
        monitor := { monitor with stage := .requesting report }
        signals
        events := report.events }
  | .requesting report =>
      let request := signals.halt .stalled
      some {
        monitor := { monitor with
          detector := monitor.detector.close
          stage := .finished (.stalled report) }
        signals := request.signals
        events := request.event :: if request.won then [] else [lateEvent] }
  | .finished _ => none

/-- Runs to its end while nobody else does anything, with a clock that stands
still but for the monitor's own sleep. -/
def runAlone (board : Board) : Nat → Monitor → Signals → Instant → Monitor × Signals × Instant
  | 0, monitor, signals, now => (monitor, signals, now)
  | fuel + 1, monitor, signals, now =>
      match monitor.step board signals now with
      | some next => runAlone board fuel next.monitor next.signals now
      | none =>
          match monitor.stage with
          | .sleeping deadline => runAlone board fuel monitor signals deadline
          | _ => (monitor, signals, now)

/-- More steps than a lonely monitor takes: four for each sample and the sleep
before it, and one sample more than fit into the timeout. -/
def lonelySteps (settings : Monitor.Settings) : Nat :=
  5 * (settings.stallTimeout.nanos / max 1 settings.sampleInterval.nanos + 2) + 5

end Monitor

def Monitor.Settings.watch (settings : Monitor.Settings) (board : Board) (signals : Signals)
    (now : Instant) : Option Monitor.Outcome × Signals :=
  let (monitor, after, _) :=
    Monitor.runAlone board (Monitor.lonelySteps settings) (.create settings) signals now
  (monitor.outcome?, after)

end Contention
