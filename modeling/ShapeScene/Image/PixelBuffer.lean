import ShapeScene.Number.Binary64

/-!
# Pixel buffers

An image is a row-major array of bytes, three for each pixel. Reading and writing a pixel outside
the image does nothing.
-/

namespace ShapeScene

/-- The red, green and blue level of a pixel. -/
structure Pixel where
  /-- Red level. -/
  red : UInt8
  /-- Green level. -/
  green : UInt8
  /-- Blue level. -/
  blue : UInt8
deriving DecidableEq, Repr

/-- An image. -/
structure PixelBuffer where
  /-- Pixels per row. -/
  width : UInt32
  /-- Number of rows. -/
  height : UInt32
  /-- Levels of all pixels, row by row. -/
  data : Array UInt8
deriving DecidableEq, Repr

namespace PixelBuffer

/-- Number of bytes of an image with given sides. -/
def byteCount (width height : UInt32) : Nat := width.toNat * height.toNat * 3

/-- The data of a row, from column `x` on. -/
def fillRow (pixel : Nat → Pixel) : (count x : Nat) → Array UInt8 → Array UInt8
  | 0, _, data => data
  | count + 1, x, data =>
    let value := pixel x
    fillRow pixel count (x + 1) (((data.push value.red).push value.green).push value.blue)

/-- The data of all rows from row `y` on. What the pixels of a row share is found once. -/
def fillRows {α : Type} (shared : Nat → α) (pixel : α → Nat → Pixel) (width : Nat) :
    (count y : Nat) → Array UInt8 → Array UInt8
  | 0, _, data => data
  | count + 1, y, data =>
    let common := shared y
    fillRows shared pixel width count (y + 1) (fillRow (pixel common) width 0 data)

/-- The image whose pixel in column `x` and row `y` is `pixel (shared y) x`. Rows without pixels
are not gone through. -/
def ofRows {α : Type} (width height : UInt32) (shared : Nat → α) (pixel : α → Nat → Pixel) :
    PixelBuffer :=
  let rows := if width = 0 then 0 else height.toNat
  ⟨width, height, fillRows shared pixel width.toNat rows 0 #[]⟩

/-- The image whose pixel in column `x` and row `y` is `pixel x y`. -/
def ofFn (width height : UInt32) (pixel : Nat → Nat → Pixel) : PixelBuffer :=
  ofRows width height id fun y x => pixel x y

/-- A black image. -/
def black (width height : UInt32) : PixelBuffer := ofFn width height fun _ _ => ⟨0, 0, 0⟩

/-- Where the levels of a pixel stand in the data, if it is in the image. -/
def index? (image : PixelBuffer) (x y : UInt32) : Option Nat :=
  if x < image.width ∧ y < image.height then
    some ((y.toNat * image.width.toNat + x.toNat) * 3)
  else none

/-- The pixel at a place, if it is in the image. -/
def pixel? (image : PixelBuffer) (x y : UInt32) : Option Pixel := do
  let index ← image.index? x y
  some ⟨← image.data[index]?, ← image.data[index + 1]?, ← image.data[index + 2]?⟩

/-- The image with one pixel changed. -/
def setPixel (image : PixelBuffer) (x y : UInt32) (pixel : Pixel) : PixelBuffer :=
  match image.index? x y with
  | none => image
  | some index =>
    { image with
      data :=
        ((image.data.setIfInBounds index pixel.red).setIfInBounds (index + 1)
          pixel.green).setIfInBounds (index + 2) pixel.blue }

/-- The pixel of the preview in a row: from a bluish top to a darker bottom. -/
def previewPixel (height row : Nat) : Pixel :=
  let share := Binary64.ofNat row / Binary64.ofNat height
  ⟨UInt8.ofNat (200 * share).floorToNat, UInt8.ofNat (200 * (1 - share * 0.5)).floorToNat,
    UInt8.ofNat (255 - 100 * share).floorToNat⟩

/-- The preview that stands in for a raytraced image. -/
def preview (width height : UInt32) : PixelBuffer :=
  ofRows width height (previewPixel height.toNat) fun pixel _ => pixel

end PixelBuffer

end ShapeScene
