import ShapeScene.Text.Character

/-!
# Natural numbers in text

Reading a number below a bound, and writing numbers with a least width.
-/

namespace ShapeScene.Text

/-- The value of a list of decimal digits after digits of value `value`. -/
def decimalValueAfter (value : Nat) : List Char → Nat
  | [] => value
  | char :: rest => decimalValueAfter (value * 10 + digitValue char) rest

/-- The value of a list of decimal digits. -/
def decimalValue (digits : List Char) : Nat := decimalValueAfter 0 digits

/-- The digits after one optional plus sign. -/
def dropPlus : List Char → List Char
  | '+' :: rest => rest
  | chars => chars

/-- The number below `bound` that an optional plus sign and decimal digits write. -/
def readNatural? (bound : Nat) (chars : List Char) : Option Nat :=
  let digits := dropPlus chars
  if digits.isEmpty || !digits.all isDigit then none
  else if decimalValue digits < bound then some (decimalValue digits) else none

/-- Decimal digits of a number, padded with zeros on the left. -/
def paddedDigits (width value : Nat) : List Char :=
  let digits := Nat.toDigits 10 value
  List.replicate (width - digits.length) '0' ++ digits

end ShapeScene.Text
