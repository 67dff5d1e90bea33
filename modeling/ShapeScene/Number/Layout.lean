import ShapeScene.Number.Shortest

/-!
# Layout of numbers

The same shortest digits are laid out in two ways. Messages and raytracer commands never use an
exponent and write whole numbers without a point; JSON marks every number as a fraction and uses
an exponent for the very small and the very large.
-/

namespace ShapeScene

/-- The decisions that lay digits out as text. -/
structure NumberLayout where
  /-- Which of two equally near decimals is written. -/
  tie : DecimalTie
  /-- Least and greatest decimal exponent of the first digit that is written without an exponent;
  none when no exponent is ever written. -/
  positional : Option (Int × Int)
  /-- What follows a whole number written without an exponent. -/
  wholeEnd : String
deriving DecidableEq, Repr

namespace NumberLayout

/-- Numbers in messages and raytracer commands. -/
def plain : NumberLayout := ⟨.away, none, ""⟩

/-- Numbers in JSON: an exponent is written below `1e-5` and from `1e16` on. -/
def json : NumberLayout := ⟨.even, some (-5, 15), ".0"⟩

/-- Digits without an exponent. -/
def positionalText (layout : NumberLayout) (digits : List Char) (power : Int) : List Char :=
  if 0 ≤ power then digits ++ List.replicate power.toNat '0' ++ layout.wholeEnd.toList
  else
    let places := power.natAbs
    let padded := List.replicate (places + 1 - digits.length) '0' ++ digits
    padded.take (padded.length - places) ++ '.' :: padded.drop (padded.length - places)

/-- One digit, a point if more follow, and a signed exponent. -/
def exponentText (digits : List Char) (exponent : Int) : List Char :=
  let tail := if digits.length ≤ 1 then [] else '.' :: digits.drop 1
  let sign := if exponent < 0 then '-' else '+'
  digits.take 1 ++ tail ++ ['e', sign] ++ Nat.toDigits 10 exponent.natAbs

/-- The text of a positive finite datum. -/
def magnitudeText (layout : NumberLayout) (x : Binary64) : List Char :=
  let decimal := Decimal.shortest layout.tie x
  let digits := Nat.toDigits 10 decimal.digits
  let exponent := decimal.power + digits.length - 1
  match layout.positional with
  | none => layout.positionalText digits decimal.power
  | some (least, greatest) =>
    if least ≤ exponent && exponent ≤ greatest then layout.positionalText digits decimal.power
    else exponentText digits exponent

/-- The text of a finite datum. -/
def finiteText (layout : NumberLayout) (x : Binary64) : List Char :=
  (if x.isNegative then ['-'] else []) ++
    (if x.isZero then layout.positionalText ['0'] 0
     else layout.magnitudeText (if x.isNegative then -x else x))

end NumberLayout

namespace Binary64

/-- The text of a datum in messages and raytracer commands. -/
def text (x : Binary64) : String :=
  if x.isNaN then "NaN"
  else if x.isInfinite then (if x.isNegative then "-inf" else "inf")
  else String.ofList (NumberLayout.plain.finiteText x)

end Binary64

end ShapeScene
