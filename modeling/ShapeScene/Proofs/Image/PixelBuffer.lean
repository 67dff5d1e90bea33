import ShapeScene.Image.PixelBuffer

/-!
# Images and their data

However an image is made, its data have three bytes for each of its pixels, and changing a pixel
changes neither their number nor the sides.
-/

namespace ShapeScene.PixelBuffer

/-- Whether the data of an image are those of all its pixels. -/
def IsWhole (image : PixelBuffer) : Prop := image.data.size = byteCount image.width image.height

/-- A row adds three bytes for each of its pixels. -/
theorem size_fillRow (pixel : Nat → Pixel) (count x : Nat) (data : Array UInt8) :
    (fillRow pixel count x data).size = data.size + count * 3 := by
  induction count generalizing x data with
  | zero => simp [fillRow]
  | succ count ih =>
    simp only [fillRow, ih, Array.size_push]
    omega

/-- Rows add three bytes for each of their pixels. -/
theorem size_fillRows {α : Type} (shared : Nat → α) (pixel : α → Nat → Pixel)
    (width count y : Nat) (data : Array UInt8) :
    (fillRows shared pixel width count y data).size = data.size + width * count * 3 := by
  induction count generalizing y data with
  | zero => simp [fillRows]
  | succ count ih =>
    simp only [fillRows, ih, size_fillRow, Nat.mul_succ]
    omega

/-- An image made row by row is whole. -/
theorem isWhole_ofRows {α : Type} (width height : UInt32) (shared : Nat → α)
    (pixel : α → Nat → Pixel) : (ofRows width height shared pixel).IsWhole := by
  simp only [IsWhole, ofRows, size_fillRows, byteCount, List.size_toArray, List.length_nil,
    Nat.zero_add]
  split
  · rename_i empty
    simp [empty]
  · rfl

/-- Changing a pixel keeps the width. -/
@[simp]
theorem width_setPixel (image : PixelBuffer) (x y : UInt32) (pixel : Pixel) :
    (image.setPixel x y pixel).width = image.width := by
  unfold setPixel
  split <;> rfl

/-- Changing a pixel keeps the height. -/
@[simp]
theorem height_setPixel (image : PixelBuffer) (x y : UInt32) (pixel : Pixel) :
    (image.setPixel x y pixel).height = image.height := by
  unfold setPixel
  split <;> rfl

/-- Changing a pixel keeps the number of bytes. -/
@[simp]
theorem size_setPixel (image : PixelBuffer) (x y : UInt32) (pixel : Pixel) :
    (image.setPixel x y pixel).data.size = image.data.size := by
  unfold setPixel
  split <;> simp

/-- An image stays whole when a pixel is changed. -/
theorem IsWhole.setPixel {image : PixelBuffer} (whole : image.IsWhole) (x y : UInt32)
    (pixel : Pixel) : (image.setPixel x y pixel).IsWhole := by
  rw [IsWhole, size_setPixel, width_setPixel, height_setPixel]
  exact whole

end ShapeScene.PixelBuffer
