import Contention.Event
import Contention.Time.Span

namespace Contention

inductive Watch where
  | watching
  | stalled
  | done
deriving DecidableEq, Repr, Inhabited

def Watch.name : Watch → String
  | .watching => "watching"
  | .stalled => "stalled"
  | .done => "done"

structure Stall.Detector where
  timeout : Span
  state : Watch
  lastSeen : Nat
  /-- When the count was last seen to change. -/
  lastChange : Span
  now : Span
deriving DecidableEq, Repr

namespace Stall.Detector

def start (timeout : Span) (count : Nat) (now : Span) : Stall.Detector :=
  { timeout, state := .watching, lastSeen := count, lastChange := now, now }

/-- Time without a change as of the last sample. -/
def idle (detector : Stall.Detector) : Span := detector.now.monus detector.lastChange

def flatEvent (detector : Stall.Detector) : Event where
  level := .debug
  message := "Counter flat for the stall timeout"
  fields := [
    ("count", toString detector.lastSeen),
    ("idle", detector.idle.text),
    ("timeout", detector.timeout.text)]

def observe (detector : Stall.Detector) (now : Span) (count : Nat) :
    Stall.Detector × List Event :=
  match detector.state with
  | .stalled => (detector, [])
  | .done => (detector, [])
  | .watching =>
      let seen := { detector with now }
      if count ≠ seen.lastSeen then
        ({ seen with lastSeen := count, lastChange := now }, [])
      else if seen.timeout ≤ seen.idle then
        ({ seen with state := .stalled }, [seen.flatEvent])
      else (seen, [])

def close (detector : Stall.Detector) : Stall.Detector := { detector with state := .done }

end Stall.Detector

end Contention
