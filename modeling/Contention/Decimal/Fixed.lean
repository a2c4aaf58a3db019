import Contention.Decimal.Binary

namespace Contention.Decimal

/-- The whole number nearest to a fraction, a half going to the even one. -/
def roundEven (numerator denominator : Nat) : Nat :=
  let whole := numerator / denominator
  let twice := 2 * (numerator % denominator)
  if twice < denominator ∨ (twice = denominator ∧ whole % 2 = 0) then whole else whole + 1

def placed (units places : Nat) : String :=
  let digits := Nat.toDigits 10 units
  let padded := List.replicate (places + 1 - digits.length) '0' ++ digits
  let split := padded.length - places
  let whole := String.ofList (padded.take split)
  if places = 0 then whole else whole ++ "." ++ String.ofList (padded.drop split)

/-- Never in exponent form; a negative number keeps its sign even when all its
digits are zero. -/
def fixed (places : Nat) (number : Float) : String :=
  match Reading.ofFloat number with
  | .nan => "NaN"
  | .infinite negative => if negative then "-inf" else "inf"
  | .finite value =>
      let (twos, halves) := fractionalPower 2 value.exponent
      let units := roundEven (value.significand * twos * Nat.pow 10 places) halves
      (if value.negative then "-" else "") ++ placed units places

end Contention.Decimal
