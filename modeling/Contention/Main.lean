import Contention.CommandLine.Program
import Contention.Phase.Timeline

namespace Contention.CommandLine

/-- Waits until the given point of the phase's clock, which started at `origin`
of the machine's. -/
def waitFor (origin : Nat) (time : Instant) : IO Unit := do
  let passed := (← IO.monoNanosNow) - origin
  if passed < time.nanos then
    IO.sleep (UInt32.ofNat (min ((time.nanos - passed) / 1000000) 1000000000))

def logEvent (event : Event) : IO Unit :=
  match event.level with
  | .trace => pure ()
  | .debug => pure ()
  | _ => IO.eprintln event.line

partial def follow (origin : Nat) (timeline : Timeline Unit) : IO (Timeline Unit) := do
  if timeline.phase.isOver then return timeline
  match timeline.tick? with
  | some tick =>
      (tick.effects.filterMap Effect.event?).forM logEvent
      follow origin tick.timeline
  | none =>
      match timeline.nextTime? with
      | none => return timeline
      | some time =>
          waitFor origin time
          follow origin (timeline.passTo time)

def runPhase (settings : Settings) (label : Char) (config : Config) : IO UInt32 := do
  let stdout ← IO.getStdout
  stdout.putStr (settings.opening label config)
  stdout.flush
  match startPhase config .origin with
  | .error fault =>
      IO.eprint (faultPage fault)
      return UInt32.ofNat suddenEnd
  | .ok (phase, events) =>
      events.forM logEvent
      let final ← follow (← IO.monoNanosNow) (.start phase)
      match final.phase.result? with
      | none => return 1
      | some (.error fault) =>
          IO.eprint (faultPage fault)
          return UInt32.ofNat suddenEnd
      | some (.ok summary) =>
          if !settings.json then
            (summary.stall.map Stall.Report.text).forM IO.eprint
          stdout.putStr (settings.closing summary)
          return 0

def runPhases (settings : Settings) : List (Char × Config) → IO UInt32
  | [] => do
      if !settings.json then IO.println "Done."
      return 0
  | (label, config) :: rest => do
      let code ← runPhase settings label config
      if code = 0 then runPhases settings rest else return code

end Contention.CommandLine

open Contention.CommandLine in
def main (arguments : List String) : IO UInt32 := do
  match launch arguments with
  | .error exit =>
      IO.print exit.stdout
      IO.eprint exit.stderr
      return UInt32.ofNat exit.code
  | .ok settings =>
      settings.warnings.forM logEvent
      runPhases settings settings.plan
