import ShapeScene.Number.Binary64

/-!
# The fewest digits of a number

A finite datum is written with the fewest decimal digits that still read back as itself, and among
those with the decimal nearest to it. The search runs over decimal grids from coarse to fine: on
each grid only the two neighbours of the number can be the answer.
-/

namespace ShapeScene

/-- Which of two equally near decimals is written. -/
inductive DecimalTie where
  /-- The one farther from zero. -/
  | away
  /-- The one with an even last digit. -/
  | even
deriving DecidableEq, Repr

/-- A positive decimal `digits * 10 ^ power`. -/
structure Decimal where
  /-- All digits as one number. -/
  digits : Nat
  /-- Decimal place of the last digit. -/
  power : Int
deriving DecidableEq, Repr, Inhabited

namespace Decimal

/-- The numbers that round to a datum, in quarters of its last place: the datum itself, the ends
of the interval around it, and whether the ends belong to it. -/
structure RoundingInterval where
  /-- Lower end. -/
  low : Nat
  /-- The datum. -/
  value : Nat
  /-- Upper end. -/
  high : Nat
  /-- Binary exponent of a quarter of the last place. -/
  place : Int
  /-- Whether the ends round to the datum. -/
  closed : Bool
deriving DecidableEq, Repr

/-- The rounding interval of a positive finite datum. Below a power of two the neighbour is only
half as far away. -/
def RoundingInterval.of (x : Binary64) : RoundingInterval where
  low := 4 * x.significand - (if x.fraction = 0 ∧ 1 < x.biasedExponent then 1 else 2)
  value := 4 * x.significand
  high := 4 * x.significand + 2
  place := x.exponent - 2
  closed := x.significand % 2 = 0

/-- Whether the decimal `digits * 10 ^ power` lies in an interval. -/
def RoundingInterval.holds (interval : RoundingInterval) (decimal : Decimal) : Bool :=
  let scaled := decimal.digits * Nat.pow 10 decimal.power.toNat * Nat.pow 2 (-interval.place).toNat
  let unit := Nat.pow 10 (-decimal.power).toNat * Nat.pow 2 interval.place.toNat
  if interval.closed then interval.low * unit ≤ scaled && scaled ≤ interval.high * unit
  else interval.low * unit < scaled && scaled < interval.high * unit

/-- The answer on the grid of multiples of `10 ^ power`, if one of the two neighbours of the datum
on it lies in the interval. -/
def onGrid (tie : DecimalTie) (interval : RoundingInterval) (power : Int) : Option Decimal :=
  let above := interval.value * Nat.pow 2 interval.place.toNat * Nat.pow 10 (-power).toNat
  let below := Nat.pow 2 (-interval.place).toNat * Nat.pow 10 power.toNat
  let lower : Decimal := ⟨above / below, power⟩
  let upper : Decimal := ⟨above / below + 1, power⟩
  let twice := 2 * (above % below)
  let upperNearer : Bool :=
    if twice = below then
      match tie with
      | .away => true
      | .even => lower.digits % 2 = 1
    else below < twice
  match lower.digits != 0 && interval.holds lower, interval.holds upper with
  | false, false => none
  | true, false => some lower
  | false, true => some upper
  | true, true => some (if upperNearer then upper else lower)

/-- The answer on the first grid that has one, from `power` on down. -/
def onGridsFrom (tie : DecimalTie) (interval : RoundingInterval) : (fuel : Nat) → Int → Decimal
  | 0, power => ⟨0, power⟩
  | fuel + 1, power =>
    match onGrid tie interval power with
    | some decimal => decimal
    | none => onGridsFrom tie interval fuel (power - 1)

/-- A decimal place above the first digit of a datum: the binary logarithm times `log10 2`. -/
def placeAbove (x : Binary64) : Int :=
  ((Nat.log2 x.significand : Int) + x.exponent + 1) * 30103 / 100000 + 1

/-- The shortest decimal of a positive finite datum. -/
def shortest (tie : DecimalTie) (x : Binary64) : Decimal :=
  onGridsFrom tie (RoundingInterval.of x) 24 (placeAbove x)

end Decimal

end ShapeScene
