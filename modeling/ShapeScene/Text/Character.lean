import ShapeScene.Text.Table.Alphabetic
import ShapeScene.Text.Table.Newcomer
import ShapeScene.Text.Table.Numeric
import ShapeScene.Text.Table.WordPart

/-!
# Character classes

The classes that descriptions, keywords and input lines are read by. All of them are classes of
the Unicode standard, so a description in any script is cut at the same places as an English one.
Classes of single characters follow version 17.0 of the standard. Boundaries between words follow
version 16.0, in which the newcomers of 17.0 have no properties.
-/

namespace ShapeScene.Text

/-- White space: the Unicode property White_Space. -/
def isBlank (char : Char) : Bool :=
  let code := char.toNat
  (9 ≤ code && code ≤ 13) || code == 0x20 || code == 0x85 || code == 0xA0 || code == 0x1680 ||
    (0x2000 ≤ code && code ≤ 0x200A) || code == 0x2028 || code == 0x2029 || code == 0x202F ||
    code == 0x205F || code == 0x3000

/-- Letters: the Unicode property Alphabetic. -/
def isAlphabetic (char : Char) : Bool := CodeRange.cover alphabeticRanges char.toNat

/-- Letters and numbers of any kind. -/
def isAlphanumeric (char : Char) : Bool :=
  isAlphabetic char || CodeRange.cover numericRanges char.toNat

/-- Characters that only version 17.0 of the Unicode standard knows. -/
def isNewcomer (char : Char) : Bool := CodeRange.cover newcomerRanges char.toNat

/-- Characters that a word boundary separates from the others: letters, marks, decimal digits,
connector punctuation and join controls, all of them without newcomers. -/
def isWordChar (char : Char) : Bool :=
  (isAlphabetic char || CodeRange.cover wordPartRanges char.toNat) && !isNewcomer char

/-- The decimal digits of ASCII. -/
def isDigit (char : Char) : Bool := '0' ≤ char && char ≤ '9'

/-- The value of an ASCII decimal digit. -/
def digitValue (char : Char) : Nat := char.toNat - '0'.toNat

/-- The value of a hexadecimal digit in either letter case. -/
def hexValue? (char : Char) : Option Nat :=
  if '0' ≤ char ∧ char ≤ '9' then some (char.toNat - '0'.toNat)
  else if 'a' ≤ char ∧ char ≤ 'f' then some (char.toNat - 'a'.toNat + 10)
  else if 'A' ≤ char ∧ char ≤ 'F' then some (char.toNat - 'A'.toNat + 10)
  else none

/-- The lowercase hexadecimal digit of a value below sixteen. -/
def hexDigit (value : Nat) : Char :=
  if value < 10 then Char.ofNat ('0'.toNat + value) else Char.ofNat ('a'.toNat + (value - 10))

end ShapeScene.Text
