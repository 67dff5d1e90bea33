import ShapeScene.Text.Character
import ShapeScene.Text.Table.GraphemeExtend
import ShapeScene.Text.Table.Unprintable

/-!
# Quoted text in messages

A text that a message quotes stands between double quotes, with everything escaped that would not
be seen as itself: the quote, the backslash, controls, and characters without a glyph of their own.
The voiced sound marks of halfwidth katakana extend graphemes, but have glyphs of their own.
-/

namespace ShapeScene.Text

/-- Lowercase hexadecimal digits of a number, at least one, without leading zeros. -/
def hexDigits (value : Nat) : List Char :=
  if value < 16 then [hexDigit value] else hexDigits (value / 16) ++ [hexDigit (value % 16)]
termination_by value
decreasing_by omega

/-- Whether a character would be seen as a part of the one before it. -/
def isCombining (char : Char) : Bool :=
  CodeRange.cover graphemeExtendRanges char.toNat && char != '\uFF9E' && char != '\uFF9F'

/-- A character as it stands inside quotes. -/
def quotedChar (char : Char) : List Char :=
  if char = '\x00' then ['\\', '0']
  else if char = '\t' then ['\\', 't']
  else if char = '\r' then ['\\', 'r']
  else if char = '\n' then ['\\', 'n']
  else if char = '\\' then ['\\', '\\']
  else if char = '"' then ['\\', '"']
  else if isCombining char || CodeRange.cover unprintableRanges char.toNat then
    ['\\', 'u', '\x7b'] ++ hexDigits char.toNat ++ ['\x7d']
  else [char]

/-- A text between double quotes. -/
def quoted (text : String) : String :=
  String.ofList ('"' :: text.toList.flatMap quotedChar ++ ['"'])

end ShapeScene.Text
