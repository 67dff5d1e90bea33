import Mathlib.Algebra.Group.Nat.Defs
import ShapeScene.Text.Character

/-!
# Numbers in hexadecimal digits

A number below a power of sixteen is written in lowercase digits, the highest one first and zeros in
front included, so that their count is the exponent of the power. The number is read off its digits
again, so different numbers have different digits.
-/

namespace ShapeScene.Text

/-- The hexadecimal digits that are written: decimal digits, and letters in lowercase. -/
def isLowerHexDigit (char : Char) : Bool :=
  ('0' ≤ char && char ≤ '9') || ('a' ≤ char && char ≤ 'f')

/-- The number that hexadecimal digits write. -/
def hexadecimalValue (digits : List Char) : Nat :=
  digits.foldl (fun value digit => value * 16 + (hexValue? digit).getD 0) 0

/-- Whether characters are lowercase hexadecimal digits, as many as a width says, and write a number
together. -/
structure AreHexDigitsOf (width value : Nat) (digits : List Char) : Prop where
  /-- No digit is left out, be it a zero in front. -/
  length : digits.length = width
  /-- All of them are digits in lowercase. -/
  all : ∀ digit ∈ digits, isLowerHexDigit digit = true
  /-- The number is read off them. -/
  worth : hexadecimalValue digits = value

/-- The digit of a value below sixteen is a digit, and has the value. -/
theorem hexValue?_hexDigit {value : Nat} (small : value < 16) :
    isLowerHexDigit (hexDigit value) = true ∧ hexValue? (hexDigit value) = some value := by
  have checked : ∀ value < 16, isLowerHexDigit (hexDigit value) = true ∧
      hexValue? (hexDigit value) = some value := by
    decide
  exact checked value small

/-- A digit comes behind the digits before it. -/
theorem hexadecimalValue_concat (digits : List Char) (digit : Char) :
    hexadecimalValue (digits ++ [digit]) =
      hexadecimalValue digits * 16 + (hexValue? digit).getD 0 := by
  rw [hexadecimalValue, List.foldl_append]
  rfl

namespace AreHexDigitsOf

variable {width value other : Nat} {digits : List Char}

/-- No digits write nothing. -/
theorem nil : AreHexDigitsOf 0 0 [] := ⟨rfl, List.forall_mem_nil _, rfl⟩

/-- One more digit is written behind others. -/
theorem concat (areDigits : AreHexDigitsOf width value digits) {digit : Nat} (small : digit < 16) :
    AreHexDigitsOf (width + 1) (value * 16 + digit) (digits ++ [hexDigit digit]) where
  length := by rw [List.length_append, areDigits.length, List.length_singleton]
  all := by
    intro char member
    rcases List.mem_append.mp member with before | last
    · exact areDigits.all char before
    · rw [List.mem_singleton.mp last]
      exact (hexValue?_hexDigit small).1
  worth := by
    rw [hexadecimalValue_concat, areDigits.worth, (hexValue?_hexDigit small).2, Option.getD_some]

end AreHexDigitsOf

end ShapeScene.Text
