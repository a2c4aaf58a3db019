import Contention.Decimal.Binary

namespace Contention.Decimal

/-! The fewest decimal digits that read back as the same double, and of those
the nearest to it.  Where two are equally near, the layout says which one. -/

structure Scaled where
  digits : Nat
  exponent : Int
deriving DecidableEq, Repr

def digitCount (number : Nat) : Nat := (Nat.toDigits 10 number).length

def Scaled.magnitude (number : Scaled) : Int := number.exponent + digitCount number.digits - 1

def Scaled.strip : Nat → Scaled → Scaled
  | 0, number => number
  | fuel + 1, number =>
      if number.digits ≠ 0 ∧ number.digits % 10 = 0 then
        strip fuel { digits := number.digits / 10, exponent := number.exponent + 1 }
      else number

/-- The largest `power` with `10 ^ power ≤ numerator / denominator`. -/
def magnitudeOf (numerator denominator : Nat) : Int :=
  let guess : Int := (digitCount numerator : Int) - digitCount denominator
  let (above, below) := fractionalPower 10 guess
  if above * denominator ≤ numerator * below then guess else guess - 1

inductive Tie where
  | toEven
  | awayFromZero
deriving DecidableEq, Repr

def Tie.keepsLower : Tie → (lower : Nat) → Bool
  | .toEven, lower => lower % 2 == 0
  | .awayFromZero, _ => false

namespace Binary

/-- Quarters of the last place: the value itself is `4 * significand` of them,
and every number between the two bounds reads back as the value. -/
def lowerQuarters (value : Binary) : Nat :=
  4 * value.significand - if value.lowest then 1 else 2

def upperQuarters (value : Binary) : Nat := 4 * value.significand + 2

/-- The point of the grid of step `10 ^ exponent` that is nearest to the value,
if one of the two neighbours on that grid reads back as the value.  A bound
reads back itself when the significand is even. -/
def onGrid? (tie : Tie) (value : Binary) (exponent : Int) : Option Nat :=
  let (twos, halves) := fractionalPower 2 (value.exponent - 2)
  let (tens, tenths) := fractionalPower 10 exponent
  let scale := twos * tenths
  let step := tens * halves
  let exact := 4 * value.significand * scale
  let low := value.lowerQuarters * scale
  let high := value.upperQuarters * scale
  let closed := value.significand % 2 == 0
  let readsBack := fun point =>
    if closed then low ≤ point * step ∧ point * step ≤ high
    else low < point * step ∧ point * step < high
  let below := exact / step
  let above := below + 1
  let gapBelow := exact - below * step
  let gapAbove := above * step - exact
  match decide (readsBack below), decide (readsBack above) with
  | true, true =>
      if gapBelow < gapAbove ∨ (gapBelow = gapAbove ∧ tie.keepsLower below) then some below
      else some above
  | true, false => some below
  | false, true => some above
  | false, false => none

/-- Tries one digit, two digits, and so on.  Seventeen always suffice. -/
def shortest (tie : Tie) (value : Binary) : Scaled :=
  let (twos, halves) := fractionalPower 2 value.exponent
  let magnitude := magnitudeOf (value.significand * twos) halves
  let tries := (List.range 17).findSome? fun (places : Nat) =>
    let exponent := magnitude - places
    (value.onGrid? tie exponent).map fun digits => { digits, exponent : Scaled }
  match tries with
  | some found => found.strip 17
  | none => { digits := value.significand, exponent := 0 }

end Binary

structure Layout where
  tie : Tie
  smallest : Int
  greatest : Int
  plus : String
  nan : String
  infinite : String
deriving Repr

def Layout.record : Layout where
  tie := .toEven
  smallest := -5
  greatest := 15
  plus := "+"
  nan := "null"
  infinite := "null"

def Layout.field : Layout where
  tie := .awayFromZero
  smallest := -4
  greatest := 15
  plus := ""
  nan := "NaN"
  infinite := "inf"

def Scaled.positional (number : Scaled) : String :=
  let digits := Nat.toDigits 10 number.digits
  if 0 ≤ number.exponent then
    String.ofList (digits ++ List.replicate number.exponent.toNat '0') ++ ".0"
  else
    let places := (-number.exponent).toNat
    let padded := List.replicate (places + 1 - digits.length) '0' ++ digits
    let split := padded.length - places
    String.ofList (padded.take split) ++ "." ++ String.ofList (padded.drop split)

def Scaled.scientific (plus : String) (number : Scaled) : String :=
  let leading := Nat.toDigits 10 number.digits |>.take 1
  let rest := Nat.toDigits 10 number.digits |>.drop 1
  let fraction := if rest.isEmpty then "" else "." ++ String.ofList rest
  let magnitude := number.magnitude
  let sign := if magnitude < 0 then "-" else plus
  String.ofList leading ++ fraction ++ "e" ++ sign ++ toString magnitude.natAbs

def Layout.write (layout : Layout) (number : Float) : String :=
  match Reading.ofFloat number with
  | .nan => layout.nan
  | .infinite negative =>
      if negative && layout.infinite != layout.nan then "-" ++ layout.infinite
      else layout.infinite
  | .finite value =>
      let sign := if value.negative then "-" else ""
      if value.significand = 0 then sign ++ "0.0"
      else
        let digits := value.shortest layout.tie
        if layout.smallest ≤ digits.magnitude ∧ digits.magnitude ≤ layout.greatest then
          sign ++ digits.positional
        else sign ++ digits.scientific layout.plus

end Contention.Decimal
