import ShapeScene.Proofs.Image.Header
import ShapeScene.Proofs.Image.PixelBuffer
import Mathlib.Tactic.Set

/-!
# Pixmaps read back

A field of a header ends at white space, so each field is read back from what was written, and the
one byte behind the last field keeps the levels apart from the header whatever they begin with. The
only other condition is that the file can be counted; a file that was read meets it, since no header
is shorter than the one that is written.
-/

namespace ShapeScene.Ppm

/-! ## Numbers that are written -/

/-- The bytes of a number are those of its digits. -/
theorem utf8_toString (value : Nat) :
    Text.utf8 (toString value) =
      (Nat.toDigits 10 value).map fun char => UInt8.ofNat char.toNat := by
  rw [Text.utf8, Nat.toString_eq_repr, Nat.toList_repr]
  refine Text.flatMap_utf8EncodeChar_ascii fun char member => ?_
  have digit := Text.toNat_of_isDigit (Text.isDigit_of_mem_toDigits member)
  omega

/-- A number is read back behind white space. -/
theorem readNumber_cons {space : UInt8} (blank : isSpace space = true) (value : UInt32)
    {rest : List UInt8} (stops : StopsField rest) :
    readNumber (space :: (Text.utf8 (toString value.toNat) ++ rest)) = .ok (value, rest) :=
  readNumber_eq_ok_iff.mpr
    ⟨[space], toString value.toNat, .space blank .none, Text.isNumeral_toString value.toNat, stops,
      rfl⟩

/-! ## Files that are written -/

/-- The bytes of a header. -/
theorem utf8_header (width height : UInt32) :
    Text.utf8 (header width height) =
      [0x50, 0x36] ++ 0x0A :: (Text.utf8 (toString width.toNat) ++
        0x20 :: (Text.utf8 (toString height.toNat) ++
          0x0A :: (Text.utf8 (toString (255 : UInt32).toNat) ++ [0x0A]))) := by
  have magic : "P6\n".toList.flatMap String.utf8EncodeChar = [0x50, 0x36, 0x0A] := by decide
  have space : " ".toList.flatMap String.utf8EncodeChar = [0x20] := by decide
  have line : "\n".toList.flatMap String.utf8EncodeChar = [0x0A] := by decide
  simp only [Text.utf8, header, String.toList_append, List.flatMap_append, magic, space, line,
    List.append_assoc]
  rfl

/-- The mark in front of a file makes a field. -/
theorem isField_magic : IsField [0x50, 0x36] := by
  refine ⟨⟨0x50, [0x36], rfl, by decide⟩, fun byte member => ?_⟩
  simp only [List.mem_cons, List.not_mem_nil, or_false] at member
  rcases member with rfl | rfl <;> decide

/-- The levels of an image are read behind the white space that ends its header. -/
theorem readData_cons (space : UInt8) (data : Array UInt8) (junk : List UInt8) :
    readData data.size (space :: (data.toList ++ junk)) = .ok data := by
  have enough : data.size ≤ (data.toList ++ junk).length := by
    rw [List.length_append, Array.length_toList]
    exact Nat.le_add_right _ _
  rw [readData, if_pos enough, ← Array.length_toList, List.take_left, Array.toArray_toList]

/-- A file is read when its parts are read one after the other. -/
theorem decode_of_reads {bytes magic afterMagic afterWidth afterHeight rest : List UInt8}
    {image : PixelBuffer} (magicRead : readField bytes = .ok (magic, afterMagic))
    (magicText : Text.readUtf8Lenient magic = "P6")
    (widthRead : readNumber afterMagic = .ok (image.width, afterWidth))
    (heightRead : readNumber afterWidth = .ok (image.height, afterHeight))
    (levelRead : readNumber afterHeight = .ok (255, rest))
    (small : bytes.length - rest.length + 1 +
      PixelBuffer.byteCount image.width image.height < 2 ^ 64)
    (dataRead : readData (PixelBuffer.byteCount image.width image.height) rest = .ok image.data) :
    decode bytes = .ok image := by
  have greatest : ¬ (255 : UInt32).toNat ≠ maxLevel := by decide
  have countable : ¬ Nat.pow 2 64 ≤ bytes.length - rest.length + 1 +
      PixelBuffer.byteCount image.width image.height := Nat.not_le_of_lt small
  simp only [decode, magicRead, magicText, widthRead, heightRead, levelRead, dataRead, bind,
    Except.bind, ne_eq, not_true_eq_false, if_false, if_neg greatest, if_neg countable]

/-- An image is read back from its file, whatever follows it, when the file can be counted with
eight bytes. -/
theorem decode_append {image : PixelBuffer} (whole : image.IsWhole)
    (countable : (encode image).length < 2 ^ 64) (junk : List UInt8) :
    decode (encode image ++ junk) = .ok image := by
  obtain ⟨width, height, data⟩ := image
  have size : PixelBuffer.byteCount width height = data.size := whole.symm
  have line : isSpace 0x0A = true := by decide
  have space : isSpace 0x20 = true := by decide
  -- what is left behind each field
  set levels := 0x0A :: (data.toList ++ junk) with behindLevel
  set level := 0x0A :: (Text.utf8 (toString (255 : UInt32).toNat) ++ levels) with behindHeight
  set heights := 0x20 :: (Text.utf8 (toString height.toNat) ++ level) with behindWidth
  set widths := 0x0A :: (Text.utf8 (toString width.toNat) ++ heights) with behindMagic
  have file : encode ⟨width, height, data⟩ ++ junk = [0x50, 0x36] ++ widths := by
    simp only [encode, utf8_header, behindMagic, behindWidth, behindHeight, behindLevel,
      List.append_assoc, List.cons_append, List.nil_append]
  have magicRead : readField ([0x50, 0x36] ++ widths) = .ok ([0x50, 0x36], widths) :=
    readField_append isField_magic (stopsField_cons line _)
  have magicText : Text.readUtf8Lenient [0x50, 0x36] = "P6" := by decide
  have widthRead : readNumber widths = .ok (width, heights) :=
    readNumber_cons line width (stopsField_cons space _)
  have heightRead : readNumber heights = .ok (height, level) :=
    readNumber_cons space height (stopsField_cons line _)
  have levelRead : readNumber level = .ok (255, levels) :=
    readNumber_cons line 255 (stopsField_cons line _)
  have dataRead : readData data.size levels = .ok data := readData_cons 0x0A data junk
  have small : ([0x50, 0x36] ++ widths).length - levels.length + 1 + data.size < 2 ^ 64 := by
    have headed : 0 < (Text.utf8 (header width height)).length := by simp [utf8_header]
    have behind : levels.length = data.size + junk.length + 1 := by simp [behindLevel]
    rw [← file, behind]
    simp only [encode, List.length_append, Array.length_toList] at countable ⊢
    omega
  rw [file]
  exact decode_of_reads magicRead magicText widthRead heightRead levelRead (size ▸ small)
    (size ▸ dataRead)

/-! ## Files that are read -/

/-- Nothing is put in front when white space and comments are passed. -/
theorem length_skipFiller_le (comment : Bool) (bytes : List UInt8) :
    (skipFiller comment bytes).length ≤ bytes.length := by
  induction bytes generalizing comment with
  | nil => cases comment <;> exact Nat.le_refl 0
  | cons byte rest ih =>
    have behind (comment : Bool) : (skipFiller comment rest).length ≤ (byte :: rest).length :=
      Nat.le_succ_of_le (ih comment)
    cases comment with
    | true => exact behind _
    | false =>
      rw [skipFiller]
      split
      · exact behind _
      · split
        · exact behind _
        · exact Nat.le_refl _

/-- A field that is read behind another leaves out the white space between them. -/
theorem length_readField_lt {bytes field rest : List UInt8} (stops : StopsField bytes)
    (read : readField bytes = .ok (field, rest)) :
    field.length + rest.length < bytes.length := by
  cases bytes with
  | nil => cases read
  | cons space others =>
    have within := (length_readField read).1
    rw [skipFiller_cons (stops space rfl)] at within
    exact Nat.lt_succ_of_le (Nat.le_trans within (length_skipFiller_le false others))

/-- A number that is read was written with as many bytes as it has digits, or more. -/
theorem length_readNumber {bytes rest : List UInt8} {value : UInt32} (stops : StopsField bytes)
    (read : readNumber bytes = .ok (value, rest)) :
    (Text.utf8 (toString value.toNat)).length + rest.length < bytes.length ∧
      StopsField rest := by
  unfold readNumber at read
  cases fieldRead : readField bytes with
  | error error => simp [fieldRead, bind, Except.bind] at read
  | ok result =>
    obtain ⟨field, behind⟩ := result
    simp only [fieldRead, bind, Except.bind] at read
    split at read
    · rename_i number numberRead
      obtain ⟨rfl, rfl⟩ := Prod.mk.inj (Except.ok.inj read)
      have digits := Text.length_toDigits_le_of_readNatural? numberRead
      have below := Text.readNatural?_lt numberRead
      have chars := Text.length_readUtf8LenientAfter_le 0 field
      have bytes := length_readField_lt stops fieldRead
      rw [Nat.pow_eq] at below
      rw [Text.readUtf8Lenient, String.toList_ofList] at digits
      rw [utf8_toString, List.length_map, UInt32.toNat_ofNat_of_lt' below]
      exact ⟨by omega, (length_readField fieldRead).2⟩
    · cases read

/-- The data that are read are as many bytes as were announced. -/
theorem size_readData {count : Nat} {bytes : List UInt8} {data : Array UInt8}
    (read : readData count bytes = .ok data) : data.size = count := by
  unfold readData at read
  split at read
  · split at read
    · rename_i enough
      rw [← Except.ok.inj read, List.size_toArray, List.length_take]
      exact Nat.min_eq_left enough
    · cases read
  · cases read

/-- What is read of a file on the way to its image. -/
theorem exists_of_decode {bytes : List UInt8} {image : PixelBuffer}
    (read : decode bytes = .ok image) :
    ∃ magic afterMagic afterWidth afterHeight rest,
      readField bytes = .ok (magic, afterMagic) ∧ Text.readUtf8Lenient magic = "P6" ∧
      readNumber afterMagic = .ok (image.width, afterWidth) ∧
      readNumber afterWidth = .ok (image.height, afterHeight) ∧
      readNumber afterHeight = .ok (255, rest) ∧
      bytes.length - rest.length + 1 + PixelBuffer.byteCount image.width image.height < 2 ^ 64 ∧
      readData (PixelBuffer.byteCount image.width image.height) rest = .ok image.data := by
  unfold decode at read
  obtain ⟨⟨magic, afterMagic⟩, magicRead, read⟩ := bind_eq_ok.mp read
  simp only [ne_eq, ite_not] at read
  split at read
  · rename_i magicText
    obtain ⟨⟨width, afterWidth⟩, widthRead, read⟩ := bind_eq_ok.mp read
    obtain ⟨⟨height, afterHeight⟩, heightRead, read⟩ := bind_eq_ok.mp read
    obtain ⟨⟨level, rest⟩, levelRead, read⟩ := bind_eq_ok.mp read
    simp only at read
    split at read
    · rename_i greatest
      split at read
      · cases read
      · rename_i small
        obtain ⟨data, dataRead, same⟩ := bind_eq_ok.mp read
        obtain rfl := Except.ok.inj same
        obtain rfl : level = 255 := UInt32.toNat_inj.mp greatest
        exact ⟨magic, afterMagic, afterWidth, afterHeight, rest, magicRead, magicText, widthRead,
          heightRead, levelRead, Nat.lt_of_not_le small, dataRead⟩
    · cases read
  · cases read

/-- A file that is read gives a whole image, and the file of that image can be counted: its header
is not longer than the one that was read, and what was read was counted. -/
theorem isWhole_of_decode {bytes : List UInt8} {image : PixelBuffer}
    (read : decode bytes = .ok image) :
    image.IsWhole ∧ (encode image).length < 2 ^ 64 := by
  obtain ⟨magic, afterMagic, afterWidth, afterHeight, rest, magicRead, magicText, widthRead,
    heightRead, levelRead, small, dataRead⟩ := exists_of_decode read
  have size := size_readData dataRead
  refine ⟨size, ?_⟩
  have magicLength : 2 ≤ magic.length := by
    have chars := congrArg (fun text : String => text.toList.length) magicText
    simp only [Text.readUtf8Lenient, String.toList_ofList] at chars
    have most := Text.length_readUtf8LenientAfter_le 0 magic
    rwa [chars] at most
  have magicBytes := length_readField magicRead
  have passed := length_skipFiller_le false bytes
  have widthBytes := length_readNumber magicBytes.2 widthRead
  have heightBytes := length_readNumber widthBytes.2 heightRead
  have levelBytes := length_readNumber heightBytes.2 levelRead
  have written : (Text.utf8 (header image.width image.height)).length =
      (Text.utf8 (toString image.width.toNat)).length +
        (Text.utf8 (toString image.height.toNat)).length +
        (Text.utf8 (toString (255 : UInt32).toNat)).length + 6 := by
    simp only [utf8_header, List.length_append, List.length_cons, List.length_nil]
    omega
  simp only [encode, List.length_append, Array.length_toList, size, written]
  omega

/-! ## Images a program can have -/

/-- The images that a program can come to have. It makes none whose data a machine cannot hold in
one piece. -/
inductive Obtained : PixelBuffer → Prop where
  /-- A black image. -/
  | black {width height : UInt32} (fits : PixelBuffer.byteCount width height < 2 ^ 63) :
    Obtained (PixelBuffer.black width height)
  /-- An image made from its pixels. -/
  | ofFn {width height : UInt32} (fits : PixelBuffer.byteCount width height < 2 ^ 63)
      (pixel : Nat → Nat → Pixel) :
    Obtained (PixelBuffer.ofFn width height pixel)
  /-- A preview. -/
  | preview {width height : UInt32} (fits : PixelBuffer.byteCount width height < 2 ^ 63) :
    Obtained (PixelBuffer.preview width height)
  /-- An image read from a file. -/
  | decoded {bytes : List UInt8} {image : PixelBuffer} (read : decode bytes = .ok image) :
    Obtained image
  /-- An image with a pixel changed. -/
  | setPixel {image : PixelBuffer} (obtained : Obtained image) (x y : UInt32) (pixel : Pixel) :
    Obtained (image.setPixel x y pixel)

/-- A number of 32 bits has ten digits at most. -/
theorem length_toString_le (value : UInt32) :
    (Text.utf8 (toString value.toNat)).length ≤ 10 := by
  rw [utf8_toString, List.length_map, Nat.length_toDigits_le_iff (by decide) (by decide)]
  exact Nat.lt_trans value.toNat_lt (by decide)

/-- An image made row by row is whole, and its file can be counted when a machine can hold it. -/
theorem isWhole_of_fits {α : Type} {width height : UInt32}
    (fits : PixelBuffer.byteCount width height < 2 ^ 63) (shared : Nat → α)
    (pixel : α → Nat → Pixel) :
    (PixelBuffer.ofRows width height shared pixel).IsWhole ∧
      (encode (PixelBuffer.ofRows width height shared pixel)).length < 2 ^ 64 := by
  have whole := PixelBuffer.isWhole_ofRows width height shared pixel
  have widthLength := length_toString_le width
  have heightLength := length_toString_le height
  have levelLength := length_toString_le 255
  refine ⟨whole, ?_⟩
  rw [PixelBuffer.IsWhole] at whole
  simp only [encode, utf8_header, List.length_append, List.length_cons, List.length_nil,
    Array.length_toList, whole]
  simp only [PixelBuffer.ofRows]
  omega

/-- An image that a program can have is whole, and its file can be counted. -/
theorem Obtained.isWhole {image : PixelBuffer} (obtained : Obtained image) :
    image.IsWhole ∧ (encode image).length < 2 ^ 64 := by
  induction obtained with
  | black fits => exact isWhole_of_fits fits _ _
  | ofFn fits pixel => exact isWhole_of_fits fits _ _
  | preview fits => exact isWhole_of_fits fits _ _
  | decoded read => exact isWhole_of_decode read
  | setPixel obtained x y pixel ih =>
    obtain ⟨whole, countable⟩ := ih
    refine ⟨whole.setPixel x y pixel, ?_⟩
    simpa [encode] using countable

/-- An image that a program can have is read back from its file, whatever its levels are and
whatever follows the file. -/
theorem decode_encode_append {image : PixelBuffer} (obtained : Obtained image)
    (junk : List UInt8) : decode (encode image ++ junk) = .ok image := by
  obtain ⟨whole, countable⟩ := obtained.isWhole
  exact decode_append whole countable junk

/-- Levels that look like more of the header, and further bytes behind them, are no obstacle. -/
theorem decode_encode_append_setPixel :
    Obtained ((PixelBuffer.black 2 1).setPixel 0 0 ⟨0x23, 0x0A, 0x31⟩) ∧
      decode (encode ((PixelBuffer.black 2 1).setPixel 0 0 ⟨0x23, 0x0A, 0x31⟩) ++ [0x20, 0x37]) =
        .ok ((PixelBuffer.black 2 1).setPixel 0 0 ⟨0x23, 0x0A, 0x31⟩) := by
  have obtained : Obtained ((PixelBuffer.black 2 1).setPixel 0 0 ⟨0x23, 0x0A, 0x31⟩) :=
    .setPixel (.black (by decide)) 0 0 ⟨0x23, 0x0A, 0x31⟩
  exact ⟨obtained, decode_encode_append obtained [0x20, 0x37]⟩

end ShapeScene.Ppm
