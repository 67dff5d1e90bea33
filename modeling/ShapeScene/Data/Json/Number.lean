import ShapeScene.Data.Datum

/-!
# Numbers in JSON

An integer that fits its word is read exactly. Any other number is read from the first digits that
fit a word of eight bytes: they are rounded once, and once more when they are multiplied or divided
by the power of ten. A number whose magnitude is too great has no value.
-/

namespace ShapeScene.Json

/-- The parts of a number as they are written, digits by their values. -/
structure NumberToken where
  /-- Whether a minus sign stands in front. -/
  negative : Bool
  /-- Digits before the point. -/
  whole : List Nat
  /-- Digits after the point; none without a point. -/
  fraction : List Nat
  /-- Whether an exponent follows. -/
  hasExponent : Bool
  /-- Whether the exponent has a minus sign. -/
  exponentNegative : Bool
  /-- Digits of the exponent. -/
  exponent : List Nat
deriving DecidableEq, Repr

/-- Digits appended to a significand while it stays below a bound, with the number of digits
taken. -/
def takeDigits (bound : Nat) : (significand taken : Nat) → List Nat → Nat × Nat
  | significand, taken, [] => (significand, taken)
  | significand, taken, digit :: digits =>
    if significand * 10 + digit < bound then
      takeDigits bound (significand * 10 + digit) (taken + 1) digits
    else (significand, taken)

/-- The power of ten, rounded. -/
def powerOfTen (exponent : Nat) : Binary64 := Binary64.ofDecimal false 1 exponent

/-- A magnitude times a power of ten with at most three divisions by the greatest power of ten
there is; none if the product is too great. -/
def scaleByTen : (divisions : Nat) → Binary64 → Int → Option Binary64
  | divisions, magnitude, exponent =>
    if exponent.natAbs ≤ 308 then
      if 0 ≤ exponent then
        let product := magnitude * powerOfTen exponent.natAbs
        if product.isInfinite then none else some product
      else some (magnitude / powerOfTen exponent.natAbs)
    else if magnitude.isZero then some magnitude
    else if 0 ≤ exponent then none
    else
      match divisions with
      | 0 => some magnitude
      | divisions + 1 => scaleByTen divisions (magnitude / powerOfTen 308) (exponent + 308)

/-- A significand times a power of ten, with a sign. -/
def realOfParts (negative : Bool) (significand : Nat) (exponent : Int) : Datum :=
  match scaleByTen 3 (Binary64.ofNat significand) exponent with
  | some magnitude => .real (if negative then -magnitude else magnitude)
  | none => .unreadable

/-- The value of an integer without point and exponent that fits a word of eight bytes. -/
def integerOfParts (negative : Bool) (significand : Nat) : Datum :=
  if negative then
    if significand = 0 ∨ Nat.pow 2 63 < significand then .real (-(Binary64.ofNat significand))
    else .integer .decimal (-(significand : Int))
  else .integer .decimal significand

/-- The value of a number with an exponent, given the exponent that its digits stand at. -/
def withExponent (token : NumberToken) (significand : Nat) (start : Int) : Datum :=
  let exponent : Nat := token.exponent.foldl (fun value digit => value * 10 + digit) 0
  if Nat.pow 2 31 ≤ exponent then
    if significand ≠ 0 ∧ !token.exponentNegative then .unreadable
    else .real (Binary64.zero token.negative)
  else if token.exponentNegative then realOfParts token.negative significand (start - exponent)
  else realOfParts token.negative significand (start + exponent)

/-- The value of a number. -/
def NumberToken.value (token : NumberToken) : Datum :=
  let (whole, taken) := takeDigits (Nat.pow 2 64) 0 0 token.whole
  let before := token.whole.length - taken
  let (significand, after) := takeDigits (Nat.pow 2 64) whole 0 token.fraction
  let exponent : Int := (before : Int) - after
  if token.hasExponent then withExponent token significand exponent
  else if token.fraction.isEmpty && before = 0 then integerOfParts token.negative significand
  else realOfParts token.negative significand exponent

end ShapeScene.Json
