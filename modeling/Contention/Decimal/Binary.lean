namespace Contention.Decimal

/-- A finite double is `significand * 2 ^ exponent`, with a sign.  `lowest` says
that its significand is the least of its binade, where the gap below is half
the gap above. -/
structure Binary where
  negative : Bool
  significand : Nat
  exponent : Int
  lowest : Bool
deriving DecidableEq, Repr

inductive Reading where
  | nan
  | infinite (negative : Bool)
  | finite (value : Binary)
deriving DecidableEq, Repr

def hiddenBit : Nat := 4503599627370496

/-- Splits 64 bits into sign, exponent and fraction.  An exponent field of zero
has no hidden bit, one of all ones is an infinity or not a number. -/
def Reading.ofBits (bits : UInt64) : Reading :=
  let number := bits.toNat
  let negative := number >>> 63 == 1
  let biased : Nat := (number >>> 52) % 2048
  let fraction : Nat := number % hiddenBit
  if biased = 2047 then
    if fraction = 0 then .infinite negative else .nan
  else if biased = 0 then
    .finite { negative, significand := fraction, exponent := -1074, lowest := false }
  else
    .finite {
      negative
      significand := hiddenBit + fraction
      exponent := (biased : Int) - 1075
      lowest := fraction == 0 && biased != 1 }

def Reading.ofFloat (number : Float) : Reading := .ofBits number.toBits

def fractionalPower (base : Nat) (exponent : Int) : Nat × Nat :=
  (Nat.pow base exponent.toNat, Nat.pow base (-exponent).toNat)

end Contention.Decimal
