import Contention.Delay
import Contention.Event
import Contention.Mode

namespace Contention

structure Workload where
  think : Delay := .millis 1 3
  /-- Between the two acquires. -/
  gap : Delay := .millis 1 2
  work : Delay := .millis 1 2
  rest : Delay := .millis 1 2
deriving DecidableEq, Repr, Inhabited

structure Config where
  resources : Nat := 5
  workers : Nat := 5
  stallTimeout : Span := .ofSecondsWord 3
  duration : Span := .ofSecondsWord 12
  mode : Mode := .unordered
  pairing : Pairing := .paired
  sampleInterval : Span := .ofMillisWord 200
  /-- How long workers may take to exit before they are abandoned. -/
  joinGrace : Span := .ofSecondsWord 2
  seed : UInt64 := 12345
  workload : Workload := {}
deriving DecidableEq, Repr, Inhabited

def minResources : Nat := 2

def minWorkers : Nat := 2

def minStallTimeout : Span := .ofSecondsWord 1

def minDuration : Span := .ofSecondsWord 3

inductive ConfigIssue where
  | tooFewResources (requested : Nat)
  | tooFewWorkers (requested : Nat)
  | stallTimeoutTooShort (requested : Span)
  | durationTooShort (requested : Span)
deriving DecidableEq, Repr

namespace ConfigIssue

def kind : ConfigIssue → String
  | .tooFewResources _ => "TooFewResources"
  | .tooFewWorkers _ => "TooFewWorkers"
  | .stallTimeoutTooShort _ => "StallTimeoutTooShort"
  | .durationTooShort _ => "DurationTooShort"

def message : ConfigIssue → String
  | .tooFewResources requested =>
      s!"resource count {requested} is below the minimum of {minResources}"
  | .tooFewWorkers requested =>
      s!"worker count {requested} is below the minimum of {minWorkers}"
  | .stallTimeoutTooShort requested =>
      "stall timeout " ++ requested.text ++ " is below the minimum of " ++ minStallTimeout.text
  | .durationTooShort requested =>
      "phase duration " ++ requested.text ++ " is below the minimum of " ++ minDuration.text

def event (issue : ConfigIssue) : Event where
  level := .warn
  message := "Configuration clamped"
  fields := [("error", issue.message)]

end ConfigIssue

namespace Config

def issues (config : Config) : List ConfigIssue :=
  (if config.resources < minResources then [.tooFewResources config.resources] else []) ++
  (if config.workers < minWorkers then [.tooFewWorkers config.workers] else []) ++
  (if config.stallTimeout < minStallTimeout then
    [.stallTimeoutTooShort config.stallTimeout] else []) ++
  (if config.duration < minDuration then [.durationTooShort config.duration] else [])

def clamped (config : Config) : Config :=
  { config with
    resources := max config.resources minResources
    workers := max config.workers minWorkers
    stallTimeout := config.stallTimeout.longer minStallTimeout
    duration := config.duration.longer minDuration }

def corrected (config : Config) : Config × List ConfigIssue := (config.clamped, config.issues)

end Config

end Contention
