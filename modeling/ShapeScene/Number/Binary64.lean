/-!
# Binary64 numbers

A binary64 datum is held as its word, so that reading and writing a file keeps the payload of a
NaN. Arithmetic is exact on significands and exponents and rounds once, to the nearest datum and
at a tie to the even one.
-/

namespace ShapeScene

/-- A binary64 datum. -/
structure Binary64 where
  /-- Sign, biased exponent and fraction, from the most significant bit down. -/
  bits : UInt64
deriving DecidableEq, Repr, Inhabited

namespace Binary64

/-- Whether the sign bit is set. -/
def isNegative (x : Binary64) : Bool := Nat.pow 2 63 ≤ x.bits.toNat

/-- The eleven exponent bits. -/
def biasedExponent (x : Binary64) : Nat := x.bits.toNat / Nat.pow 2 52 % Nat.pow 2 11

/-- The fifty-two fraction bits. -/
def fraction (x : Binary64) : Nat := x.bits.toNat % Nat.pow 2 52

/-- Whether the datum is a number. -/
def isFinite (x : Binary64) : Bool := x.biasedExponent < 2047

/-- Whether the datum is not a number and no infinity. -/
def isNaN (x : Binary64) : Bool := x.biasedExponent == 2047 && x.fraction != 0

/-- Whether the datum is an infinity. -/
def isInfinite (x : Binary64) : Bool := x.biasedExponent == 2047 && x.fraction == 0

/-- Whether the datum is zero of either sign. -/
def isZero (x : Binary64) : Bool := x.biasedExponent == 0 && x.fraction == 0

/-- The integer significand: a finite datum is `significand * 2 ^ exponent` with its sign. -/
def significand (x : Binary64) : Nat :=
  if x.biasedExponent = 0 then x.fraction else x.fraction + Nat.pow 2 52

/-- The exponent of the last place. -/
def exponent (x : Binary64) : Int := (max x.biasedExponent 1 : Nat) - 1075

/-- The word with a sign bit and a magnitude below `2 ^ 63`. -/
def ofParts (negative : Bool) (magnitude : Nat) : Binary64 :=
  ⟨UInt64.ofNat ((if negative then Nat.pow 2 63 else 0) + magnitude)⟩

/-- The magnitude bits of an infinity. -/
def infinityMagnitude : Nat := 2047 * Nat.pow 2 52

/-- Zero of a given sign. -/
def zero (negative : Bool) : Binary64 := ofParts negative 0

/-- Infinity of a given sign. -/
def infinity (negative : Bool) : Binary64 := ofParts negative infinityMagnitude

/-- The quiet NaN without a payload. -/
def nan : Binary64 := ofParts false (infinityMagnitude + Nat.pow 2 51)

/-- The quotient rounded to an integer, a half going to the even neighbour. -/
def divideToEven (numerator denominator : Nat) : Nat :=
  let quotient := numerator / denominator
  let twice := 2 * (numerator % denominator)
  if twice < denominator then quotient
  else if denominator < twice then quotient + 1
  else if quotient % 2 = 0 then quotient else quotient + 1

/-- The datum nearest to a quotient of natural numbers, with a given sign. The exponent of the
last place is the one that leaves fifty-three bits, or the least exponent. -/
def ofRatio (negative : Bool) (numerator denominator : Nat) : Binary64 :=
  if numerator = 0 then zero negative
  else
    let scaled (place : Int) : Nat × Nat :=
      (numerator * Nat.pow 2 (-place).toNat, denominator * Nat.pow 2 place.toNat)
    let low : Int := max (-1074) ((Nat.log2 numerator : Int) - Nat.log2 denominator - 53)
    let place :=
      let (above, below) := scaled low
      if above / below < Nat.pow 2 53 then low else low + 1
    let (above, below) := scaled place
    let magnitude := (place + 1074).toNat * Nat.pow 2 52 + divideToEven above below
    ofParts negative (min magnitude infinityMagnitude)

/-- The datum nearest to a natural number. -/
def ofNat (value : Nat) : Binary64 := ofRatio false value 1

/-- The datum nearest to an integer. -/
def ofInt (value : Int) : Binary64 := ofRatio (value < 0) value.natAbs 1

/-- The datum nearest to `digits * 10 ^ power`, with a given sign. -/
def ofDecimal (negative : Bool) (digits : Nat) (power : Int) : Binary64 :=
  ofRatio negative (digits * Nat.pow 10 power.toNat) (Nat.pow 10 (-power).toNat)

instance (value : Nat) : OfNat Binary64 value := ⟨ofNat value⟩

instance : OfScientific Binary64 where
  ofScientific digits negativePower power :=
    ofDecimal false digits (if negativePower then -(power : Int) else power)

/-- The datum with the other sign. -/
def negate (x : Binary64) : Binary64 := ⟨x.bits ^^^ 0x8000000000000000⟩

instance : Neg Binary64 := ⟨negate⟩

/-- Numerator and denominator of the magnitude of a finite datum. -/
def ratio (x : Binary64) : Nat × Nat :=
  (x.significand * Nat.pow 2 x.exponent.toNat, Nat.pow 2 (-x.exponent).toNat)

/-- The magnitude of a finite datum in units of `2 ^ place`, for a place not above its own. -/
def unitsAt (x : Binary64) (place : Int) : Nat :=
  x.significand * Nat.pow 2 (x.exponent - place).toNat

/-- The signed value of a finite datum in units of `2 ^ place`. -/
def signedUnitsAt (x : Binary64) (place : Int) : Int :=
  if x.isNegative then -(x.unitsAt place : Int) else x.unitsAt place

/-- Whether one datum is below another; never with a NaN. -/
def isBelow (x y : Binary64) : Bool :=
  if x.isNaN || y.isNaN then false
  else if x.isInfinite then x.isNegative && !(y.isInfinite && y.isNegative)
  else if y.isInfinite then !y.isNegative
  else
    let place := min x.exponent y.exponent
    x.signedUnitsAt place < y.signedUnitsAt place

/-- Whether two data are the same number: zeros of both signs are, a NaN is no number. -/
def sameNumber (x y : Binary64) : Bool :=
  !x.isNaN && !y.isNaN && (x == y || (x.isZero && y.isZero))

/-- The rounded sum. -/
def add (x y : Binary64) : Binary64 :=
  if x.isNaN || y.isNaN then nan
  else if x.isInfinite then
    if y.isInfinite && x.isNegative != y.isNegative then nan else x
  else if y.isInfinite then y
  else
    let place := min x.exponent y.exponent
    let total := x.signedUnitsAt place + y.signedUnitsAt place
    if total = 0 then zero (x.isNegative && y.isNegative)
    else ofRatio (total < 0) (total.natAbs * Nat.pow 2 place.toNat) (Nat.pow 2 (-place).toNat)

/-- The rounded difference. -/
def sub (x y : Binary64) : Binary64 := add x y.negate

/-- The rounded product. -/
def mul (x y : Binary64) : Binary64 :=
  let negative := x.isNegative != y.isNegative
  if x.isNaN || y.isNaN then nan
  else if x.isInfinite || y.isInfinite then
    if x.isZero || y.isZero then nan else infinity negative
  else
    let (above, below) := x.ratio
    let (above', below') := y.ratio
    ofRatio negative (above * above') (below * below')

/-- The rounded quotient. -/
def div (x y : Binary64) : Binary64 :=
  let negative := x.isNegative != y.isNegative
  if x.isNaN || y.isNaN then nan
  else if x.isInfinite then if y.isInfinite then nan else infinity negative
  else if y.isInfinite then zero negative
  else if y.isZero then if x.isZero then nan else infinity negative
  else
    let (above, below) := x.ratio
    let (above', below') := y.ratio
    ofRatio negative (above * below') (below * above')

instance : Add Binary64 := ⟨add⟩
instance : Sub Binary64 := ⟨sub⟩
instance : Mul Binary64 := ⟨mul⟩
instance : Div Binary64 := ⟨div⟩

/-- The greatest natural number whose square is at most `value`, by bisection between a root that
is small enough and one that is too large. -/
def squareRootBetween (value low high : Nat) : Nat :=
  if high ≤ low + 1 then low
  else
    let middle := (low + high) / 2
    if middle * middle ≤ value then squareRootBetween value middle high
    else squareRootBetween value low middle
termination_by high - low

/-- The rounded square root. The root of a significand widened by sixty binary places has more
than fifty-five bits, and a last bit that says whether anything was cut off decides ties. -/
def sqrt (x : Binary64) : Binary64 :=
  if x.isNaN then nan
  else if x.isZero then x
  else if x.isNegative then nan
  else if x.isInfinite then x
  else
    let place := x.exponent - 120 - (x.exponent % 2)
    let widened := x.unitsAt place
    let root := squareRootBetween widened 0 (Nat.pow 2 (Nat.log2 widened / 2 + 1))
    let sticky := 2 * root + (if root * root = widened then 0 else 1)
    let half := place / 2 - 1
    ofRatio false (sticky * Nat.pow 2 half.toNat) (Nat.pow 2 (-half).toNat)

/-- The datum moved into the closed interval between two others; a NaN stays. -/
def clamp (x low high : Binary64) : Binary64 :=
  if x.isBelow low then low else if high.isBelow x then high else x

/-- The natural number nearest to a datum, a half going to the even neighbour; negative numbers
and NaN give zero. -/
def roundToNat (x : Binary64) : Nat :=
  if x.isNaN || x.isNegative then 0
  else
    let (above, below) := x.ratio
    divideToEven above below

/-- The greatest natural number not above a datum; negative numbers and NaN give zero. -/
def floorToNat (x : Binary64) : Nat :=
  if x.isNaN || x.isNegative then 0 else x.ratio.1 / x.ratio.2

/-- Whether a number is at least another; never with a NaN. -/
def isAtLeast (x y : Binary64) : Bool := !x.isNaN && !y.isNaN && !x.isBelow y

/-- The greater of two data; a NaN gives way, and of equal data the first stays. -/
def larger (x y : Binary64) : Binary64 := if x.isNaN || x.isBelow y then y else x

/-- The datum with the value of a single precision word; the payload of a NaN is kept and made
quiet. -/
def ofBinary32 (word : UInt32) : Binary64 :=
  let negative := Nat.pow 2 31 ≤ word.toNat
  let biased := word.toNat / Nat.pow 2 23 % Nat.pow 2 8
  let fraction := word.toNat % Nat.pow 2 23
  if biased = 255 then
    if fraction = 0 then infinity negative
    else ofParts negative (infinityMagnitude + (fraction * Nat.pow 2 29 ||| Nat.pow 2 51))
  else
    let significand := if biased = 0 then fraction else fraction + Nat.pow 2 23
    let place : Int := (max biased 1 : Nat) - 150
    ofRatio negative (significand * Nat.pow 2 place.toNat) (Nat.pow 2 (-place).toNat)

/-- The word as a machine number, for the functions that have no rational value. -/
def toFloat (x : Binary64) : Float := Float.ofBits x.bits

/-- A machine number as a datum. -/
def ofFloat (value : Float) : Binary64 := ⟨value.toBits⟩

/-- The sine of an angle in radians. -/
def sin (x : Binary64) : Binary64 := ofFloat x.toFloat.sin

/-- The cosine of an angle in radians. -/
def cos (x : Binary64) : Binary64 := ofFloat x.toFloat.cos

/-- The tangent of an angle in radians. -/
def tan (x : Binary64) : Binary64 := ofFloat x.toFloat.tan

/-- The angle in radians with a given tangent. -/
def atan (x : Binary64) : Binary64 := ofFloat x.toFloat.atan

end Binary64

end ShapeScene
