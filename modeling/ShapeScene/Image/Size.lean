import ShapeScene.Error
import ShapeScene.Text.Lowercase
import ShapeScene.Text.Natural

/-!
# Image sizes

A size is written as width and height with an x between them. Sides are bounded, so that a
mistyped size cannot ask for more pixels than there is memory for.
-/

namespace ShapeScene

/-- Width and height of an image in pixels. -/
structure ImageSize where
  /-- Pixels per row. -/
  width : UInt32
  /-- Number of rows. -/
  height : UInt32
deriving DecidableEq, Repr

namespace ImageSize

/-- The longest side an image may have. -/
def maxSide : Nat := 8192

/-- The size used when none is given. -/
def standard : ImageSize := ⟨800, 600⟩

/-- The size as it is written. -/
def text (size : ImageSize) : String :=
  toString size.width.toNat ++ "x" ++ toString size.height.toNat

/-- Whether both sides are between one and the longest side. -/
def isRenderable (size : ImageSize) : Bool :=
  size.width != 0 && size.height != 0 && size.width.toNat ≤ maxSide && size.height.toNat ≤ maxSide

/-- The error for a text that is no size. -/
def malformed (written : String) : SceneError :=
  .invalidArgument ("invalid size " ++ Text.quoted written ++ " (expected WIDTHxHEIGHT)")

/-- The error for a size with a side that is too long. -/
def tooLarge (size : ImageSize) : SceneError :=
  .invalidArgument ("size " ++ size.text ++ " is too large (at most " ++ toString maxSide ++
    " per side)")

/-- One side of a written size, with white space around it allowed. -/
def readSide? (chars : List Char) : Option UInt32 :=
  (Text.readNatural? (Nat.pow 2 32) (Text.trimChars chars)).map UInt32.ofNat

/-- The size that a text writes: two sides around the first x in either letter case. -/
def parse (written : String) : Except SceneError ImageSize :=
  match Text.splitFirst (· = 'x') (Text.lowercaseChars written.toList) with
  | none => .error (malformed written)
  | some (before, after) =>
    match readSide? before, readSide? after with
    | some width, some height =>
      let size : ImageSize := ⟨width, height⟩
      if width = 0 ∨ height = 0 then .error (malformed written)
      else if maxSide < width.toNat ∨ maxSide < height.toNat then .error size.tooLarge
      else .ok size
    | _, _ => .error (malformed written)

end ImageSize

end ShapeScene
