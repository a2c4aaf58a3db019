import Contention.Fault

namespace Contention

def nanosPerSecond : Nat := 1000000000

def spanLimit : Nat := 18446744073709551616 * nanosPerSecond

structure Span where
  nanos : Nat
  fits : nanos < spanLimit := by decide
deriving DecidableEq, Repr

namespace Span

instance : Inhabited Span := ⟨{ nanos := 0 }⟩

instance : LE Span := ⟨fun left right => left.nanos ≤ right.nanos⟩

instance (left right : Span) : Decidable (left ≤ right) :=
  inferInstanceAs (Decidable (left.nanos ≤ right.nanos))

instance : LT Span := ⟨fun left right => left.nanos < right.nanos⟩

instance (left right : Span) : Decidable (left < right) :=
  inferInstanceAs (Decidable (left.nanos < right.nanos))

theorem le_iff {left right : Span} : left ≤ right ↔ left.nanos ≤ right.nanos := Iff.rfl

theorem lt_iff {left right : Span} : left < right ↔ left.nanos < right.nanos := Iff.rfl

theorem eq_of_nanos {left right : Span} (same : left.nanos = right.nanos) : left = right := by
  cases left
  cases right
  cases same
  rfl

def zero : Span := { nanos := 0 }

def longest : Span := { nanos := spanLimit - 1 }

def ofNanos? (nanos : Nat) : Option Span :=
  if fits : nanos < spanLimit then some { nanos, fits } else none

/-- A word of nanoseconds is less than six hundred years. -/
def ofNanosWord (word : UInt64) : Span where
  nanos := word.toNat
  fits := Nat.lt_trans word.toNat_lt (by decide)

def ofSecondsWord (word : UInt64) : Span where
  nanos := word.toNat * nanosPerSecond
  fits := Nat.mul_lt_mul_of_pos_right word.toNat_lt (by decide)

def ofMillisWord (word : UInt64) : Span where
  nanos := word.toNat * 1000000
  fits := Nat.lt_of_le_of_lt
    (Nat.mul_le_mul_right 1000000 (Nat.le_of_lt word.toNat_lt)) (by decide)

def ofMicrosWord (word : UInt64) : Span where
  nanos := word.toNat * 1000
  fits := Nat.lt_of_le_of_lt
    (Nat.mul_le_mul_right 1000 (Nat.le_of_lt word.toNat_lt)) (by decide)

def wholeSeconds (span : Span) : Nat := span.nanos / nanosPerSecond

def subsecondNanos (span : Span) : Nat := span.nanos % nanosPerSecond

def wholeMicros (span : Span) : Nat := span.nanos / 1000

/-- In nanoseconds, as far as a word can hold them. -/
def nanosWord (span : Span) : UInt64 := UInt64.ofNat (min span.nanos wordMax)

/-- The time from `right` to `left`, or nothing at all if `right` is longer. -/
def monus (left right : Span) : Span where
  nanos := left.nanos - right.nanos
  fits := Nat.lt_of_le_of_lt (Nat.sub_le left.nanos right.nanos) left.fits

def add (left right : Span) : Except Fault Span :=
  match ofNanos? (left.nanos + right.nanos) with
  | some sum => .ok sum
  | none => .error .spanOverflow

def sub (left right : Span) : Except Fault Span :=
  if right ≤ left then .ok (left.monus right) else .error .spanUnderflow

def longer (left right : Span) : Span := if left ≤ right then right else left

/-- In seconds, the whole part and the fraction each rounded before they are
added. -/
def seconds (span : Span) : Float :=
  Float.ofNat span.wholeSeconds + Float.ofNat span.subsecondNanos / 1000000000.0

/-- A count of `unit`s with the fraction of one that is left, without trailing
zeros.  One unit is `10 ^ places` nanoseconds. -/
def inUnits (nanos places : Nat) : String :=
  let unit := Nat.pow 10 places
  let whole := nanos / unit
  let rest := nanos % unit
  if rest = 0 then toString whole
  else
    let digits := Nat.toDigits 10 rest
    let padded := List.replicate (places - digits.length) '0' ++ digits
    let kept := (padded.reverse.dropWhile (· == '0')).reverse
    toString whole ++ "." ++ String.ofList kept

/-- In the largest of seconds, milliseconds, microseconds and nanoseconds that
has a whole part. -/
def text (span : Span) : String :=
  if nanosPerSecond ≤ span.nanos then inUnits span.nanos 9 ++ "s"
  else if 1000000 ≤ span.nanos then inUnits span.nanos 6 ++ "ms"
  else if 1000 ≤ span.nanos then inUnits span.nanos 3 ++ "µs"
  else inUnits span.nanos 0 ++ "ns"

end Span

end Contention
