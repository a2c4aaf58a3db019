import Contention.EndReason
import Contention.Event
import Contention.Time.Instant

namespace Contention

structure Signals where
  total : Nat := 0
  stopped : Bool := false
  reason : Option EndReason := none
deriving DecidableEq, Repr, Inhabited

namespace Signals

/-- Counts one completed operation; the count is also the caller's result. -/
def record (signals : Signals) : Signals := { signals with total := signals.total + 1 }

structure Request where
  signals : Signals
  won : Bool
  event : Event

/-- The first request sets the flag and leaves its reason, later ones change
nothing. -/
def halt (signals : Signals) (reason : EndReason) : Request :=
  match signals.reason with
  | some existing => {
      signals
      won := false
      event := {
        level := .debug
        message := "Stop already requested"
        fields := [("requested", reason.name), ("existing", existing.name)] } }
  | none => {
      signals := { signals with reason := some reason, stopped := true }
      won := true
      event := {
        level := .info
        message := "Stop requested"
        fields := [("reason", reason.name)] } }

/-- What a wait finds at a given moment: the reason of a stop, nothing once the
deadline has come, or that it must go on. -/
def poll (signals : Signals) (deadline now : Instant) : Option (Option EndReason) :=
  match signals.reason with
  | some reason => some (some reason)
  | none => if deadline ≤ now then some none else none

/-- A wait of at most `timeout` during which nobody else does anything. -/
def await (signals : Signals) (now : Instant) (timeout : Span) : Except Fault Bool :=
  (now.after timeout).map fun _ => signals.reason.isSome

end Signals

end Contention
