import Contention.CommandLine.Help
import Contention.Phase.Basic

namespace Contention.CommandLine

structure Settings where
  /-- Already raised to the minimums; the mode is that of each phase. -/
  config : Config
  issues : List ConfigIssue
  phases : Phases
  json : Bool

def Given.config (given : Given) : Config where
  resources := given.resources.getD 5
  workers := given.workers.getD 5
  stallTimeout := .ofSecondsWord (UInt64.ofNat (given.stallTimeout.getD 3))
  duration := .ofSecondsWord (UInt64.ofNat (given.duration.getD 12))
  pairing := given.pairing.getD .paired
  seed := UInt64.ofNat (given.seed.getD 12345)

def Given.settings (given : Given) : Settings :=
  let (config, issues) := given.config.corrected
  { config, issues, phases := given.mode.getD .both, json := given.json }

def Settings.warnings (settings : Settings) : List Event := settings.issues.map ConfigIssue.event

structure Exit where
  code : Nat
  stdout : String := ""
  stderr : String := ""
deriving DecidableEq, Repr

def Stop.exit (stop : Stop) : Exit :=
  match stop with
  | .help long => { code := 0, stdout := helpPage long }
  | .version => { code := 0, stdout := versionLine }
  | .error wrong => { code := 2, stderr := errorPage wrong }

def suddenEnd : Nat := 101

def faultPage (fault : Fault) : String := "thread 'main' panicked:\n" ++ fault.message ++ "\n"

def header (label : Char) (config : Config) : String :=
  "=== Phase " ++ String.singleton label ++ ": " ++ config.mode.name ++
    s!" === (R={config.resources}, W={config.workers}, " ++
    s!"stall timeout={config.stallTimeout.wholeSeconds}s, " ++
    s!"duration={config.duration.wholeSeconds}s)\n"

def Settings.plan (settings : Settings) : List (Char × Config) :=
  ['A', 'B'].zip (settings.phases.modes.map fun mode => { settings.config with mode })

def Settings.opening (settings : Settings) (label : Char) (config : Config) : String :=
  if settings.json then "" else header label config

def startPhase (config : Config) (now : Instant) : Except Fault (Phase Unit × List Event) :=
  Phase.start config (Section.sleep config.workload.work) () now

def launch (arguments : List String) : Except Exit Settings :=
  match read arguments with
  | .ok given => .ok given.settings
  | .error stop => .error stop.exit

def failedStart? (settings : Settings) (now : Instant) : Option Exit :=
  match settings.plan with
  | [] => none
  | (label, config) :: _ =>
      match startPhase config now with
      | .ok _ => none
      | .error fault =>
          some {
            code := suddenEnd
            stdout := settings.opening label config
            stderr := faultPage fault }

def exitBeforePhase? (arguments : List String) (now : Instant) : Option Exit :=
  match launch arguments with
  | .error exit => some exit
  | .ok settings => failedStart? settings now

def Settings.closing (settings : Settings) (summary : Phase.Summary) : String :=
  if settings.json then summary.toJson.render ++ "\n" else summary.text ++ "\n\n"

end Contention.CommandLine
