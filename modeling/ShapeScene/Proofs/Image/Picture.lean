import Mathlib.Data.List.Induction
import ShapeScene.Proofs.Image.Ppm

/-!
# Images and the pictures they show

A picture has a pixel for every column and row. An image shows a picture when the levels of each of
its pixels stand in the data, three for a pixel and row by row. Those of two pixels stand apart, so
that a pixel that is set takes the place of one pixel of the picture and of no other.
-/

namespace ShapeScene.PixelBuffer

/-! ## Levels in the data -/

/-- Whether the levels of a pixel stand in the data from an index on. -/
structure StandsAt (data : Array UInt8) (index : Nat) (pixel : Pixel) : Prop where
  /-- The red level is the first. -/
  red : data[index]? = some pixel.red
  /-- The green level is the second. -/
  green : data[index + 1]? = some pixel.green
  /-- The blue level is the third. -/
  blue : data[index + 2]? = some pixel.blue

namespace StandsAt

variable {data : Array UInt8} {index : Nat} {pixel : Pixel}

/-- The last of the levels is in the data. -/
theorem lt_size (stands : StandsAt data index pixel) : index + 2 < data.size :=
  (Array.getElem?_eq_some_iff.mp stands.blue).1

/-- The levels still stand in data that are the same so far. -/
theorem of_getElem?_eq (stands : StandsAt data index pixel) {more : Array UInt8}
    (same : ∀ i < data.size, more[i]? = data[i]?) : StandsAt more index pixel where
  red := (same _ (by have := stands.lt_size; omega)).trans stands.red
  green := (same _ (by have := stands.lt_size; omega)).trans stands.green
  blue := (same _ stands.lt_size).trans stands.blue

end StandsAt

/-- A row is written behind the data. -/
theorem getElem?_fillRow (pixel : Nat → Pixel) (count x : Nat) {data : Array UInt8} {i : Nat}
    (before : i < data.size) : (fillRow pixel count x data)[i]? = data[i]? := by
  induction count generalizing x data with
  | zero => rfl
  | succ count ih =>
    have within :
        i < (((data.push (pixel x).red).push (pixel x).green).push (pixel x).blue).size := by
      simp only [Array.size_push]
      omega
    rw [fillRow, ih (x + 1) within]
    simp only [Array.getElem?_push, Array.size_push]
    rw [if_neg (by omega), if_neg (by omega), if_neg (by omega)]

/-- Rows are written behind the data. -/
theorem getElem?_fillRows {α : Type} (shared : Nat → α) (pixel : α → Nat → Pixel)
    (width count y : Nat) {data : Array UInt8} {i : Nat} (before : i < data.size) :
    (fillRows shared pixel width count y data)[i]? = data[i]? := by
  induction count generalizing y data with
  | zero => rfl
  | succ count ih =>
    have within : i < (fillRow (pixel (shared y)) width 0 data).size := by
      rw [size_fillRow]
      omega
    rw [fillRows, ih (y + 1) within, getElem?_fillRow _ _ _ before]

/-- The levels of a pixel that is pushed stand at the end. -/
theorem standsAt_push (data : Array UInt8) (pixel : Pixel) :
    StandsAt (((data.push pixel.red).push pixel.green).push pixel.blue) data.size pixel := by
  constructor <;> grind

/-- Every pixel of a row stands behind the data and the pixels before it. -/
theorem standsAt_fillRow (pixel : Nat → Pixel) {count column : Nat} (inside : column < count)
    (x : Nat) (data : Array UInt8) :
    StandsAt (fillRow pixel count x data) (data.size + 3 * column) (pixel (x + column)) := by
  induction count generalizing x data column with
  | zero => cases inside
  | succ count ih =>
    rw [fillRow]
    cases column with
    | zero =>
      exact (standsAt_push data (pixel x)).of_getElem?_eq fun i =>
        getElem?_fillRow pixel count (x + 1)
    | succ column =>
      have later := ih (Nat.lt_of_succ_lt_succ inside) (x + 1)
        (((data.push (pixel x).red).push (pixel x).green).push (pixel x).blue)
      simp only [Array.size_push] at later
      have columns : x + 1 + column = x + (column + 1) := by omega
      have indices : data.size + 1 + 1 + 1 + 3 * column = data.size + 3 * (column + 1) := by omega
      rwa [columns, indices] at later

/-- Every pixel of the rows stands behind the data, the rows before its own and the pixels before
it. -/
theorem standsAt_fillRows {α : Type} (shared : Nat → α) (pixel : α → Nat → Pixel)
    {width count column row : Nat} (inRow : column < width) (inside : row < count) (y : Nat)
    (data : Array UInt8) :
    StandsAt (fillRows shared pixel width count y data)
      (data.size + 3 * (row * width + column)) (pixel (shared (y + row)) column) := by
  induction count generalizing y data row with
  | zero => cases inside
  | succ count ih =>
    rw [fillRows]
    cases row with
    | zero =>
      have first := standsAt_fillRow (pixel (shared y)) inRow 0 data
      rw [Nat.zero_add] at first
      rw [Nat.zero_mul, Nat.zero_add, Nat.add_zero]
      exact first.of_getElem?_eq fun i => getElem?_fillRows shared pixel width count (y + 1)
    | succ row =>
      have later := ih (Nat.lt_of_succ_lt_succ inside) (y + 1)
        (fillRow (pixel (shared y)) width 0 data)
      have rows : y + 1 + row = y + (row + 1) := by omega
      have indices : data.size + width * 3 + 3 * (row * width + column) =
          data.size + 3 * ((row + 1) * width + column) := by
        have next := Nat.add_one_mul row width
        omega
      rwa [size_fillRow, rows, indices] at later

/-! ## Pictures -/

/-- A pixel for every column and row. -/
abbrev Picture := UInt32 → UInt32 → Pixel

/-- A picture with another pixel at one place. -/
def Picture.paint (picture : Picture) (x y : UInt32) (pixel : Pixel) : Picture := fun column row =>
  if column = x ∧ row = y then pixel else picture column row

/-- Whether a place is in an image. -/
def Has (image : PixelBuffer) (x y : UInt32) : Prop := x < image.width ∧ y < image.height

instance (image : PixelBuffer) (x y : UInt32) : Decidable (image.Has x y) :=
  inferInstanceAs (Decidable (x < image.width ∧ y < image.height))

/-- Where the levels of a pixel have to stand, row by row and three for each pixel. -/
def offset (image : PixelBuffer) (x y : UInt32) : Nat :=
  3 * (y.toNat * image.width.toNat + x.toNat)

/-- Whether an image shows a picture. -/
structure Shows (image : PixelBuffer) (picture : Picture) : Prop where
  /-- The data have the levels of all pixels and no others. -/
  whole : image.IsWhole
  /-- The levels of each pixel stand in its place. -/
  stands : ∀ x y, image.Has x y → StandsAt image.data (image.offset x y) (picture x y)

/-- The levels of a pixel are found in its place. -/
theorem index?_eq (image : PixelBuffer) (x y : UInt32) :
    image.index? x y = if image.Has x y then some (image.offset x y) else none := by
  rw [index?, offset, Nat.mul_comm]
  rfl

/-- The place of a pixel is in the data. -/
theorem IsWhole.offset_lt {image : PixelBuffer} (whole : image.IsWhole) {x y : UInt32}
    (inside : image.Has x y) : image.offset x y + 2 < image.data.size := by
  have column := UInt32.lt_iff_toNat_lt.mp inside.1
  have row := UInt32.lt_iff_toNat_lt.mp inside.2
  have rows : (y.toNat + 1) * image.width.toNat ≤ image.height.toNat * image.width.toNat :=
    Nat.mul_le_mul_right _ row
  rw [Nat.succ_mul] at rows
  rw [whole, byteCount, offset, Nat.mul_comm image.width.toNat]
  omega

/-- The places of two pixels are three bytes apart or more. -/
theorem offset_apart {image : PixelBuffer} {x y column row : UInt32} (inside : image.Has x y)
    (other : image.Has column row) (different : ¬(column = x ∧ row = y)) :
    image.offset x y + 3 ≤ image.offset column row ∨
      image.offset column row + 3 ≤ image.offset x y := by
  have inRow := UInt32.lt_iff_toNat_lt.mp inside.1
  have otherInRow := UInt32.lt_iff_toNat_lt.mp other.1
  unfold offset
  rcases Nat.lt_trichotomy y.toNat row.toNat with above | same | below
  · have rows : (y.toNat + 1) * image.width.toNat ≤ row.toNat * image.width.toNat :=
      Nat.mul_le_mul_right _ above
    rw [Nat.succ_mul] at rows
    omega
  · have apart : column.toNat ≠ x.toNat := fun equal =>
      different ⟨UInt32.toNat_inj.mp equal, UInt32.toNat_inj.mp same.symm⟩
    rw [same]
    omega
  · have rows : (row.toNat + 1) * image.width.toNat ≤ y.toNat * image.width.toNat :=
      Nat.mul_le_mul_right _ below
    rw [Nat.succ_mul] at rows
    omega

namespace Shows

variable {image : PixelBuffer} {picture : Picture}

/-- The pixels of an image are those of the picture. -/
theorem pixel?_eq (shows : image.Shows picture) (x y : UInt32) :
    image.pixel? x y = if image.Has x y then some (picture x y) else none := by
  rw [pixel?, index?_eq]
  by_cases inside : image.Has x y
  · have levels := shows.stands x y inside
    simp only [if_pos inside, Option.bind_eq_bind, Option.bind_some, levels.red, levels.green,
      levels.blue]
  · rw [if_neg inside, if_neg inside]
    rfl

end Shows

/-! ## One pixel set -/

/-- Nothing is changed outside of an image. -/
theorem setPixel_of_not_has {image : PixelBuffer} {x y : UInt32} (outside : ¬image.Has x y)
    (pixel : Pixel) : image.setPixel x y pixel = image := by
  rw [setPixel, index?_eq, if_neg outside]

/-- An image has the same places after a pixel was set. -/
theorem has_setPixel (image : PixelBuffer) (x y : UInt32) (pixel : Pixel) (column row : UInt32) :
    (image.setPixel x y pixel).Has column row ↔ image.Has column row := by
  rw [Has, Has, width_setPixel, height_setPixel]

/-- Setting a pixel in an image writes three levels. -/
theorem data_setPixel {image : PixelBuffer} {x y : UInt32} (inside : image.Has x y)
    (pixel : Pixel) : (image.setPixel x y pixel).data =
      ((image.data.setIfInBounds (image.offset x y) pixel.red).setIfInBounds
        (image.offset x y + 1) pixel.green).setIfInBounds (image.offset x y + 2) pixel.blue := by
  rw [setPixel, index?_eq, if_pos inside]

/-- Three levels that are written stand where they were written. -/
theorem standsAt_setIfInBounds {data : Array UInt8} {index : Nat} (inside : index + 2 < data.size)
    (pixel : Pixel) :
    StandsAt (((data.setIfInBounds index pixel.red).setIfInBounds (index + 1)
      pixel.green).setIfInBounds (index + 2) pixel.blue) index pixel := by
  constructor <;> grind

/-- Three levels that are written leave those of another pixel alone. -/
theorem StandsAt.setIfInBounds {data : Array UInt8} {index other : Nat} {old : Pixel}
    (stands : StandsAt data other old) (apart : index + 3 ≤ other ∨ other + 3 ≤ index)
    (pixel : Pixel) :
    StandsAt (((data.setIfInBounds index pixel.red).setIfInBounds (index + 1)
      pixel.green).setIfInBounds (index + 2) pixel.blue) other old := by
  obtain ⟨red, green, blue⟩ := stands
  constructor <;> grind

/-- The image after a pixel was set shows the picture with this pixel. -/
theorem Shows.setPixel {image : PixelBuffer} {picture : Picture} (shows : image.Shows picture)
    (x y : UInt32) (pixel : Pixel) :
    (image.setPixel x y pixel).Shows (picture.paint x y pixel) := by
  refine ⟨shows.whole.setPixel x y pixel, fun column row there => ?_⟩
  rw [has_setPixel] at there
  rw [offset, width_setPixel]
  change StandsAt _ (image.offset column row) _
  by_cases inside : image.Has x y
  · rw [data_setPixel inside, Picture.paint]
    by_cases same : column = x ∧ row = y
    · obtain ⟨rfl, rfl⟩ := same
      rw [if_pos ⟨rfl, rfl⟩]
      exact standsAt_setIfInBounds (shows.whole.offset_lt inside) pixel
    · rw [if_neg same]
      exact (shows.stands column row there).setIfInBounds (offset_apart inside there same) pixel
  · have other : ¬(column = x ∧ row = y) := by
      rintro ⟨rfl, rfl⟩
      exact inside there
    rw [setPixel_of_not_has inside, Picture.paint, if_neg other]
    exact shows.stands column row there

/-! ## Many pixels set -/

/-- A pixel that is set at a place. -/
structure Stroke where
  /-- The column. -/
  x : UInt32
  /-- The row. -/
  y : UInt32
  /-- The pixel. -/
  pixel : Pixel

/-- The image after pixels were set one after the other. -/
def setAll (image : PixelBuffer) (strokes : List Stroke) : PixelBuffer :=
  strokes.foldl (fun image stroke => image.setPixel stroke.x stroke.y stroke.pixel) image

/-- The last pixel that was set at exactly a place. -/
def lastSet? (strokes : List Stroke) (x y : UInt32) : Option Pixel :=
  (strokes.reverse.find? fun stroke => x = stroke.x ∧ y = stroke.y).map Stroke.pixel

/-- A picture after pixels were set: the last one that was set at a place, or the original one. -/
def Picture.paintAll (picture : Picture) (strokes : List Stroke) : Picture := fun x y =>
  (lastSet? strokes x y).getD (picture x y)

/-- One more pixel is painted over all others. -/
theorem Picture.paintAll_concat (picture : Picture) (strokes : List Stroke) (stroke : Stroke) :
    picture.paintAll (strokes ++ [stroke]) =
      (picture.paintAll strokes).paint stroke.x stroke.y stroke.pixel := by
  funext x y
  rw [paintAll, lastSet?, List.reverse_append, List.reverse_singleton, List.singleton_append,
    List.find?_cons, paint]
  by_cases same : x = stroke.x ∧ y = stroke.y
  · simp [same]
  · simp [same, paintAll, lastSet?]

/-- One more pixel is set behind all others. -/
theorem setAll_concat (image : PixelBuffer) (strokes : List Stroke) (stroke : Stroke) :
    image.setAll (strokes ++ [stroke]) =
      (image.setAll strokes).setPixel stroke.x stroke.y stroke.pixel := by
  rw [setAll, List.foldl_append]
  rfl

/-- Setting pixels keeps the sides. -/
theorem sides_setAll (image : PixelBuffer) (strokes : List Stroke) :
    (image.setAll strokes).width = image.width ∧ (image.setAll strokes).height = image.height := by
  induction strokes using List.reverseRecOn with
  | nil => exact ⟨rfl, rfl⟩
  | append_singleton strokes stroke ih =>
    rwa [setAll_concat, width_setPixel, height_setPixel]

/-- An image shows the picture that is painted by setting its pixels. -/
theorem Shows.setAll {image : PixelBuffer} {picture : Picture} (shows : image.Shows picture)
    (strokes : List Stroke) : (image.setAll strokes).Shows (picture.paintAll strokes) := by
  induction strokes using List.reverseRecOn with
  | nil => exact shows
  | append_singleton strokes stroke ih =>
    rw [setAll_concat, Picture.paintAll_concat]
    exact ih.setPixel stroke.x stroke.y stroke.pixel

/-! ## Images as they are made -/

/-- The image made row by row shows the picture it is made from. -/
theorem shows_ofRows {α : Type} (width height : UInt32) (shared : Nat → α)
    (pixel : α → Nat → Pixel) :
    (ofRows width height shared pixel).Shows fun x y => pixel (shared y.toNat) x.toNat := by
  refine ⟨isWhole_ofRows width height shared pixel, fun x y inside => ?_⟩
  have inRow := UInt32.lt_iff_toNat_lt.mp inside.1
  have inColumn := UInt32.lt_iff_toNat_lt.mp inside.2
  have some : width ≠ 0 := by
    rintro rfl
    cases inRow
  have stands := standsAt_fillRows shared pixel inRow inColumn 0 #[]
  rw [List.size_toArray, List.length_nil, Nat.zero_add, Nat.zero_add] at stands
  rw [ofRows, if_neg some]
  exact stands

/-- The pixels that are found in an image. -/
def found (image : PixelBuffer) : Picture := fun x y => (image.pixel? x y).getD ⟨0, 0, 0⟩

/-- Three bytes of the data are the levels of the pixel that is found there. -/
theorem IsWhole.shows_found {image : PixelBuffer} (whole : image.IsWhole) :
    image.Shows image.found := by
  refine ⟨whole, fun x y inside => ?_⟩
  have within := whole.offset_lt inside
  have red : image.offset x y < image.data.size := by omega
  have green : image.offset x y + 1 < image.data.size := by omega
  have pixel : image.pixel? x y = some ⟨image.data[image.offset x y],
      image.data[image.offset x y + 1], image.data[image.offset x y + 2]⟩ := by
    simp [pixel?, index?_eq, inside, red, green, within]
  rw [found, pixel]
  exact ⟨Array.getElem?_eq_getElem red, Array.getElem?_eq_getElem green,
    Array.getElem?_eq_getElem within⟩

/-- An image as it is made, with the picture that it shows at first. -/
inductive Made : PixelBuffer → Picture → Prop where
  /-- A black image. -/
  | black (width height : UInt32) : Made (black width height) fun _ _ => ⟨0, 0, 0⟩
  /-- An image made from its pixels. -/
  | ofFn (width height : UInt32) (pixel : Nat → Nat → Pixel) :
    Made (ofFn width height pixel) fun x y => pixel x.toNat y.toNat
  /-- A preview. -/
  | preview (width height : UInt32) :
    Made (preview width height) fun _ y => previewPixel height.toNat y.toNat
  /-- An image read from a file. -/
  | decoded {bytes : List UInt8} {image : PixelBuffer} (read : Ppm.decode bytes = .ok image) :
    Made image image.found

/-- An image shows a picture as soon as it is made. -/
theorem Made.shows {image : PixelBuffer} {picture : Picture} (made : Made image picture) :
    image.Shows picture := by
  cases made with
  | black width height => exact shows_ofRows width height id fun _ _ => ⟨0, 0, 0⟩
  | ofFn width height pixel => exact shows_ofRows width height id fun y x => pixel x y
  | preview width height =>
    exact shows_ofRows width height (previewPixel height.toNat) fun pixel _ => pixel
  | decoded read => exact (Ppm.isWhole_of_decode read).1.shows_found

/-! ## Images as maps -/

/-- The index of a pixel as it is computed in words of 64 bits. -/
def indexWord (image : PixelBuffer) (x y : UInt32) : UInt64 :=
  (y.toUInt64 * image.width.toUInt64 + x.toUInt64) * 3

/-- The index is computed without overflow when the data can be counted in 64 bits. -/
theorem IsWhole.toNat_indexWord {image : PixelBuffer} (whole : image.IsWhole)
    (countable : image.data.size ≤ 2 ^ 64) {x y : UInt32} (inside : image.Has x y) :
    (image.indexWord x y).toNat = image.offset x y := by
  have within := whole.offset_lt inside
  unfold offset at within ⊢
  simp only [indexWord, UInt64.toNat_mul, UInt64.toNat_add, UInt32.toNat_toUInt64]
  rw [Nat.mod_eq_of_lt (a := y.toNat * image.width.toNat) (by omega),
    Nat.mod_eq_of_lt (a := y.toNat * image.width.toNat + x.toNat) (by omega)]
  change _ * 3 % 2 ^ 64 = _
  omega

/-- Whether an image is a map from the places in it to the pixels of a picture. -/
structure Maps (image : PixelBuffer) (picture : Picture) : Prop where
  /-- The data have three bytes for each place. -/
  size : image.data.size = 3 * image.width.toNat * image.height.toNat
  /-- There is a pixel exactly at each place in the image, that of the picture. -/
  pixel : ∀ x y, image.pixel? x y = if image.Has x y then some (picture x y) else none
  /-- Nothing is looked up outside of the data. -/
  bounds : ∀ x y index, image.index? x y = some index → index + 2 < image.data.size
  /-- No index is lost when it is computed in a machine that can hold the data. -/
  index : image.data.size ≤ 2 ^ 64 → ∀ x y, image.Has x y →
    image.index? x y = some (image.indexWord x y).toNat
  /-- The levels of a pixel stand row by row in the data. -/
  stands : ∀ x y, image.Has x y →
    StandsAt image.data (3 * (y.toNat * image.width.toNat + x.toNat)) (picture x y)
  /-- A pixel that is set outside of the image changes nothing. -/
  outside : ∀ x y pixel, ¬image.Has x y → image.setPixel x y pixel = image
  /-- A pixel that is set changes no pixel at another place. -/
  apart : ∀ x y pixel column row, ¬(column = x ∧ row = y) →
    (image.setPixel x y pixel).pixel? column row = image.pixel? column row

/-- An image that shows a picture is a map to its pixels. -/
theorem Shows.maps {image : PixelBuffer} {picture : Picture} (shows : image.Shows picture) :
    image.Maps picture where
  size := by
    rw [shows.whole, byteCount, Nat.mul_comm, Nat.mul_assoc]
  pixel := shows.pixel?_eq
  bounds := by
    intro x y index found
    rw [index?_eq] at found
    split at found
    · rename_i inside
      cases found
      exact shows.whole.offset_lt inside
    · cases found
  index := by
    intro countable x y inside
    rw [index?_eq, if_pos inside, shows.whole.toNat_indexWord countable inside]
  stands := shows.stands
  outside := fun x y pixel outside => setPixel_of_not_has outside pixel
  apart := by
    intro x y pixel column row other
    rw [(shows.setPixel x y pixel).pixel?_eq, shows.pixel?_eq, Picture.paint, if_neg other]
    exact if_congr (has_setPixel image x y pixel column row) rfl rfl

/-- However an image is made and whatever pixels are set in it, it keeps its sides and is a map from
its places to the pixels that were set there last, or to the original ones. -/
theorem Made.maps_setAll {image : PixelBuffer} {picture : Picture} (made : Made image picture)
    (strokes : List Stroke) :
    (image.setAll strokes).width = image.width ∧ (image.setAll strokes).height = image.height ∧
      image.Maps picture ∧ (image.setAll strokes).Maps (picture.paintAll strokes) :=
  have sides := image.sides_setAll strokes
  ⟨sides.1, sides.2, made.shows.maps, (made.shows.setAll strokes).maps⟩

/-- Pixels that are set one after the other in two black ones, the second outside of the image. -/
def strokesOnTwo : List Stroke :=
  [⟨0, 0, ⟨1, 2, 3⟩⟩, ⟨2, 0, ⟨4, 5, 6⟩⟩, ⟨0, 0, ⟨7, 8, 9⟩⟩]

/-- The last pixel that was set at a place is there, next to an original one, and none outside. -/
theorem maps_two_painted :
    Made (black 2 1) (fun _ _ => ⟨0, 0, 0⟩) ∧
      ((black 2 1).setAll strokesOnTwo).pixel? 0 0 = some ⟨7, 8, 9⟩ ∧
      ((black 2 1).setAll strokesOnTwo).pixel? 1 0 = some ⟨0, 0, 0⟩ ∧
      ((black 2 1).setAll strokesOnTwo).pixel? 2 0 = none := by
  obtain ⟨-, -, -, maps⟩ := (Made.black 2 1).maps_setAll strokesOnTwo
  exact ⟨.black 2 1, (maps.pixel 0 0).trans rfl, (maps.pixel 1 0).trans rfl,
    (maps.pixel 2 0).trans rfl⟩

end ShapeScene.PixelBuffer
