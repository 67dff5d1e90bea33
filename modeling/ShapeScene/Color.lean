import ShapeScene.Number.Layout
import ShapeScene.Text.Character
import ShapeScene.Text.Search

/-!
# Colors

A color has a red, a green and a blue channel, each normally between zero and one. Its short form
is a number sign and two hexadecimal digits per channel; writing it brings each channel into range
and rounds it to one of 256 levels.
-/

namespace ShapeScene

/-- A color with normalized channels. -/
structure Rgb where
  /-- Red channel. -/
  red : Binary64
  /-- Green channel. -/
  green : Binary64
  /-- Blue channel. -/
  blue : Binary64
deriving DecidableEq, Repr, Inhabited

namespace Rgb

/-- Full light in every channel. -/
def white : Rgb := ⟨1, 1, 1⟩

/-- No light in any channel. -/
def black : Rgb := ⟨0, 0, 0⟩

/-- The channels in order. -/
def toList (color : Rgb) : List Binary64 := [color.red, color.green, color.blue]

/-- The color of a list of three channels. -/
def ofList? : List Binary64 → Option Rgb
  | [red, green, blue] => some ⟨red, green, blue⟩
  | _ => none

/-- Whether every channel is a number. -/
def isFinite (color : Rgb) : Bool :=
  color.red.isFinite && color.green.isFinite && color.blue.isFinite

/-- The level of a channel: the channel clamped to the unit interval, times 255, rounded with a
half going to the even level. A channel that is not a number has level zero. -/
def level (channel : Binary64) : Nat := ((channel.clamp 0 1) * 255).roundToNat

/-- The channel of a level. -/
def ofLevel (level : Nat) : Binary64 := Binary64.ofNat level / 255

/-- Two lowercase hexadecimal digits of a level. -/
def levelDigits (level : Nat) : List Char :=
  [Text.hexDigit (level / 16), Text.hexDigit (level % 16)]

/-- The short form of a color. -/
def toHex (color : Rgb) : String :=
  String.ofList ('#' :: (levelDigits (level color.red) ++ levelDigits (level color.green) ++
    levelDigits (level color.blue)))

/-- The level that two characters write: two hexadecimal digits, or a plus sign and one digit. -/
def readLevel? (first second : Char) : Option Nat :=
  match Text.hexValue? second with
  | none => none
  | some low =>
    if first = '+' then some low
    else (Text.hexValue? first).map fun high => high * 16 + low

/-- The color of a short form, with or without its number sign. -/
def ofHex? (text : String) : Option Rgb :=
  let digits :=
    match text.toList with
    | '#' :: rest => rest
    | chars => chars
  match digits with
  | [r₁, r₂, g₁, g₂, b₁, b₂] => do
    let red ← readLevel? r₁ r₂
    let green ← readLevel? g₁ g₂
    let blue ← readLevel? b₁ b₂
    some ⟨ofLevel red, ofLevel green, ofLevel blue⟩
  | _ => none

/-- The channels between parentheses. -/
def text (color : Rgb) : String :=
  "(" ++ Text.joinWith ", " (color.toList.map Binary64.text) ++ ")"

end Rgb

end ShapeScene
