import Contention.Time.Span

namespace Contention

/-- The first number of nanoseconds past the end of the clock. -/
def clockLimit : Nat := 9223372036854775808 * nanosPerSecond

structure Instant where
  nanos : Nat
deriving DecidableEq, Repr, Inhabited

namespace Instant

instance : LE Instant := ⟨fun left right => left.nanos ≤ right.nanos⟩

instance (left right : Instant) : Decidable (left ≤ right) :=
  inferInstanceAs (Decidable (left.nanos ≤ right.nanos))

theorem le_iff {left right : Instant} : left ≤ right ↔ left.nanos ≤ right.nanos := Iff.rfl

def origin : Instant := { nanos := 0 }

def after (start : Instant) (span : Span) : Except Fault Instant :=
  if start.nanos + span.nanos < clockLimit then .ok { nanos := start.nanos + span.nanos }
  else .error .clockOverflow

/-- The time from `start` to `finish`, none if `finish` comes first. -/
def since (finish start : Instant) : Span :=
  if fits : finish.nanos - start.nanos < spanLimit then
    { nanos := finish.nanos - start.nanos, fits }
  else .longest

end Instant

end Contention
