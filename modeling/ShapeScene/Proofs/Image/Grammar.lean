import ShapeScene.Proofs.Image.Ppm

/-!
# The grammar of pixmaps

Which files are read, and as which image, is said by a grammar that knows nothing of the reader. The
reader is sound and complete for it, since each part of a header is read exactly where the grammar
has it. A file that is not in the grammar is an error of rendering like every other failure.
-/

namespace ShapeScene.Ppm

/-! ## The grammar -/

/-- The files that hold an image. -/
inductive IsFileOf (image : PixelBuffer) : List UInt8 → Prop where
  /-- A mark, the width, the height and the greatest level with filler before each of them, one byte
  of white space, and the levels of all pixels with any bytes behind them. -/
  | parts {front widthGap heightGap levelGap data : List UInt8} {width height level : String}
      {separator : UInt8} (isFront : IsFiller front)
      (isWidthGap : IsGap widthGap) (isWidth : Text.IsNumeral image.width.toNat width.toList)
      (isHeightGap : IsGap heightGap) (isHeight : Text.IsNumeral image.height.toNat height.toList)
      (isLevelGap : IsGap levelGap) (isLevel : Text.IsNumeral maxLevel level.toList)
      (separates : isSpace separator = true)
      (countable : 3 * image.width.toNat * image.height.toNat < 2 ^ 64)
      (enough : 3 * image.width.toNat * image.height.toNat ≤ data.length)
      (levels : image.data.toList = data.take (3 * image.width.toNat * image.height.toNat)) :
    IsFileOf image (front ++ (Text.utf8 "P6" ++ (widthGap ++ (Text.utf8 width ++
      (heightGap ++ (Text.utf8 height ++ (levelGap ++ (Text.utf8 level ++ separator :: data))))))))

/-! ## Files -/

/-- Data are read behind one byte, whatever that is, when there are enough of them. -/
theorem readData_eq_ok_iff {count : Nat} {bytes : List UInt8} {data : Array UInt8} :
    readData count bytes = .ok data ↔
      ∃ separator rest, bytes = separator :: rest ∧ count ≤ rest.length ∧
        data.toList = rest.take count := by
  cases bytes with
  | nil =>
    constructor
    · intro read
      cases read
    · rintro ⟨separator, rest, divided, -⟩
      cases divided
  | cons separator rest =>
    rw [readData]
    constructor
    · intro read
      split at read
      · rename_i enough
        obtain rfl := Except.ok.inj read
        exact ⟨separator, rest, rfl, enough, rfl⟩
      · cases read
    · rintro ⟨_, _, divided, enough, levels⟩
      obtain ⟨rfl, rfl⟩ := List.cons.inj divided
      rw [if_pos enough, ← levels, Array.toArray_toList]

/-- The number of bytes that an image has. -/
theorem byteCount_eq (width height : UInt32) :
    PixelBuffer.byteCount width height = 3 * width.toNat * height.toNat := by
  rw [PixelBuffer.byteCount, Nat.mul_comm, Nat.mul_assoc]

/-- A file that is read holds the image that is read from it. -/
theorem isFileOf_of_decode {bytes : List UInt8} {image : PixelBuffer}
    (read : decode bytes = .ok image) : IsFileOf image bytes := by
  obtain ⟨magic, afterMagic, afterWidth, afterHeight, rest, magicRead, magicText, widthRead,
    heightRead, levelRead, small, dataRead⟩ := exists_of_decode read
  obtain ⟨front, isFront, -, afterStops, rfl⟩ := readField_eq_ok_iff.mp magicRead
  have magicBytes : Text.utf8 "P6" = magic := by
    have checked : "P6".toList.all (fun char => char.toNat < 0x80) = true := by decide
    have ascii : ∀ char ∈ "P6".toList, char.toNat < 0x80 := by
      simpa only [List.all_eq_true, decide_eq_true_eq] using checked
    rw [← magicText] at ascii ⊢
    exact Text.utf8_readUtf8Lenient ascii
  obtain ⟨widthGap, width, isWidthGap, isWidth, widthStops, rfl⟩ :=
    readNumber_eq_ok_iff.mp widthRead
  obtain ⟨heightGap, height, isHeightGap, isHeight, heightStops, rfl⟩ :=
    readNumber_eq_ok_iff.mp heightRead
  obtain ⟨levelGap, level, isLevelGap, isLevel, levelStops, rfl⟩ :=
    readNumber_eq_ok_iff.mp levelRead
  obtain ⟨separator, data, rfl, enough, levels⟩ := readData_eq_ok_iff.mp dataRead
  have countable : PixelBuffer.byteCount image.width image.height < 2 ^ 64 := by omega
  rw [byteCount_eq] at enough levels countable
  rw [← magicBytes]
  exact .parts isFront
    (isWidthGap.isGap (isField_of_isNumeral isWidth) afterStops) isWidth
    (isHeightGap.isGap (isField_of_isNumeral isHeight) widthStops) isHeight
    (isLevelGap.isGap (isField_of_isNumeral isLevel) heightStops) isLevel
    (levelStops separator rfl) countable enough levels

/-- The image that a file holds is read from it when the file can be counted with eight bytes. -/
theorem IsFileOf.decode {bytes : List UInt8} {image : PixelBuffer}
    (isFileOf : IsFileOf image bytes) (counted : bytes.length < 2 ^ 64) :
    Ppm.decode bytes = .ok image := by
  cases isFileOf with
  | @parts front widthGap heightGap levelGap data width height level separator isFront isWidthGap
      isWidth isHeightGap isHeight isLevelGap isLevel separates countable enough levels =>
    -- what is left behind each field
    set rest := separator :: data with behindLevel
    set afterHeight := levelGap ++ (Text.utf8 level ++ rest) with behindHeight
    set afterWidth := heightGap ++ (Text.utf8 height ++ afterHeight) with behindWidth
    set afterMagic := widthGap ++ (Text.utf8 width ++ afterWidth) with behindMagic
    have magicRead : readField (front ++ (Text.utf8 "P6" ++ afterMagic)) =
        .ok (Text.utf8 "P6", afterMagic) :=
      readField_eq_ok_iff.mpr
        ⟨front, isFront, isField_magic, isWidthGap.stopsField _, rfl⟩
    have widthRead : readNumber afterMagic = .ok (image.width, afterWidth) :=
      readNumber_eq_ok_iff.mpr
        ⟨widthGap, width, isWidthGap.isFiller, isWidth, isHeightGap.stopsField _, rfl⟩
    have heightRead : readNumber afterWidth = .ok (image.height, afterHeight) :=
      readNumber_eq_ok_iff.mpr
        ⟨heightGap, height, isHeightGap.isFiller, isHeight, isLevelGap.stopsField _, rfl⟩
    have levelRead : readNumber afterHeight = .ok (255, rest) :=
      readNumber_eq_ok_iff.mpr
        ⟨levelGap, level, isLevelGap.isFiller, isLevel, stopsField_cons separates data, rfl⟩
    rw [← byteCount_eq] at enough levels
    refine decode_of_reads magicRead (Text.readUtf8Lenient_utf8 "P6") widthRead heightRead
      levelRead ?_ (readData_eq_ok_iff.mpr ⟨separator, data, rfl, enough, levels⟩)
    -- the data are in the file, so that it is no shorter than what is counted
    have within : rest.length ≤ (front ++ (Text.utf8 "P6" ++ afterMagic)).length := by
      simp only [behindMagic, behindWidth, behindHeight, List.length_append]
      omega
    have dataLength : rest.length = data.length + 1 := List.length_cons
    omega

/-! ## Failures -/

/-- A step that fails, if it does, with an error of rendering. -/
def FailsToRender {α : Type} (step : Except SceneError α) : Prop :=
  ∀ error, step = .error error → ∃ message, error = .render message

/-- Success is no failure. -/
theorem failsToRender_ok {α : Type} (value : α) : FailsToRender (.ok value) :=
  fun _ failed => nomatch failed

/-- An error of rendering. -/
theorem failsToRender_render {α : Type} (message : String) :
    FailsToRender (α := α) (.error (.render message)) :=
  fun _ failed => ⟨message, (Except.error.inj failed).symm⟩

/-- Two steps fail with an error of rendering if each of them does. -/
theorem FailsToRender.bind {α β : Type} {step : Except SceneError α}
    {next : α → Except SceneError β} (first : FailsToRender step)
    (second : ∀ value, FailsToRender (next value)) : FailsToRender (step >>= next) := by
  cases step with
  | error failure =>
    intro error failed
    exact first error (congrArg Except.error (Except.error.inj failed))
  | ok value => exact second value

/-- A field that is not there is an error of rendering. -/
theorem failsToRender_readField (bytes : List UInt8) : FailsToRender (readField bytes) := by
  unfold readField
  split
  · exact failsToRender_render _
  · exact failsToRender_ok _

/-- A field that is no number is an error of rendering. -/
theorem failsToRender_readNumber (bytes : List UInt8) : FailsToRender (readNumber bytes) := by
  refine (failsToRender_readField bytes).bind fun read => ?_
  simp only
  split
  · exact failsToRender_ok _
  · exact failsToRender_render _

/-- Data that are not there are an error of rendering. -/
theorem failsToRender_readData (count : Nat) (bytes : List UInt8) :
    FailsToRender (readData count bytes) := by
  unfold readData
  split
  · split
    · exact failsToRender_ok _
    · exact failsToRender_render _
  · exact failsToRender_render _

/-- A file without an image is an error of rendering. -/
theorem failsToRender_decode (bytes : List UInt8) : FailsToRender (decode bytes) := by
  refine (failsToRender_readField bytes).bind fun magic => ?_
  simp only
  split
  · exact failsToRender_render _
  refine (failsToRender_readNumber _).bind fun width => ?_
  refine (failsToRender_readNumber _).bind fun height => ?_
  refine (failsToRender_readNumber _).bind fun level => ?_
  split
  · exact failsToRender_render _
  split
  · exact failsToRender_render _
  exact (failsToRender_readData _ _).bind fun data => failsToRender_ok _

/-! ## What is read -/

/-- An image is read from the files that hold it and from no others, and every other file that a
machine can hold is an error of rendering. -/
theorem decode_decides_grammar {bytes : List UInt8} (counted : bytes.length < 2 ^ 64) :
    (∀ image, decode bytes = .ok image ↔ IsFileOf image bytes) ∧
      ((∀ image, ¬ IsFileOf image bytes) →
        ∃ message, decode bytes = .error (.render message)) := by
  have iff (image : PixelBuffer) : decode bytes = .ok image ↔ IsFileOf image bytes :=
    ⟨isFileOf_of_decode, fun isFileOf => isFileOf.decode counted⟩
  refine ⟨iff, fun none => ?_⟩
  cases result : decode bytes with
  | ok image => exact absurd ((iff image).mp result) (none image)
  | error error =>
    obtain ⟨message, rfl⟩ := failsToRender_decode bytes error result
    exact ⟨message, rfl⟩

/-- Comments, a plus sign and zeros in front are part of the grammar, and bytes behind the levels are
left alone. A file without a width is an error. -/
theorem decode_commented :
    (Text.utf8 "# by hand\nP6\t+02 # wide\n1\n0255 " ++ [1, 2, 3, 4, 5, 6, 7]).length < 2 ^ 64 ∧
      IsFileOf ⟨2, 1, #[1, 2, 3, 4, 5, 6]⟩
        (Text.utf8 "# by hand\nP6\t+02 # wide\n1\n0255 " ++ [1, 2, 3, 4, 5, 6, 7]) ∧
      decode (Text.utf8 "# by hand\nP6\t+02 # wide\n1\n0255 " ++ [1, 2, 3, 4, 5, 6, 7]) =
        .ok ⟨2, 1, #[1, 2, 3, 4, 5, 6]⟩ ∧
      (Text.utf8 "P6\n").length < 2 ^ 64 ∧
      ∃ message, decode (Text.utf8 "P6\n") = .error (.render message) := by
  have counted : (Text.utf8 "# by hand\nP6\t+02 # wide\n1\n0255 " ++
      [1, 2, 3, 4, 5, 6, 7]).length < 2 ^ 64 := by decide
  have countedMark : (Text.utf8 "P6\n").length < 2 ^ 64 := by decide
  have blank : isSpace 0x20 = true := by decide
  have digits : Text.AreDigitsOf 2 ['0', '2'] :=
    ⟨by decide, List.all_eq_true.mp (by decide), by decide⟩
  have isWidth : Text.IsNumeral 2 "+02".toList := .signed digits
  have isHeight : Text.IsNumeral 1 "1".toList :=
    .plain ⟨by decide, List.all_eq_true.mp (by decide), by decide⟩
  have isLevel : Text.IsNumeral maxLevel "0255".toList :=
    .plain ⟨by decide, List.all_eq_true.mp (by decide), by decide⟩
  have isFront : IsFiller (0x23 :: (Text.utf8 " by hand" ++ 0x0A :: [])) :=
    .comment (by decide) .none
  have isWidthGap : IsGap [0x09] := ⟨.space (by decide) .none, 0x09, [], rfl, by decide⟩
  have isHeightGap : IsGap (0x20 :: 0x23 :: (Text.utf8 " wide" ++ 0x0A :: [])) :=
    ⟨.space blank (.comment (by decide) .none), 0x20, _, rfl, blank⟩
  have isLevelGap : IsGap [0x0A] := ⟨.space (by decide) .none, 0x0A, [], rfl, by decide⟩
  have divided : Text.utf8 "# by hand\nP6\t+02 # wide\n1\n0255 " ++ [1, 2, 3, 4, 5, 6, 7] =
      0x23 :: (Text.utf8 " by hand" ++ 0x0A :: []) ++ (Text.utf8 "P6" ++ ([0x09] ++
        (Text.utf8 "+02" ++ (0x20 :: 0x23 :: (Text.utf8 " wide" ++ 0x0A :: []) ++
          (Text.utf8 "1" ++ ([0x0A] ++ (Text.utf8 "0255" ++ 0x20 :: [1, 2, 3, 4, 5, 6, 7]))))))) :=
    by decide
  have isFileOf : IsFileOf ⟨2, 1, #[1, 2, 3, 4, 5, 6]⟩
      (Text.utf8 "# by hand\nP6\t+02 # wide\n1\n0255 " ++ [1, 2, 3, 4, 5, 6, 7]) := by
    rw [divided]
    exact .parts isFront isWidthGap isWidth isHeightGap isHeight isLevelGap isLevel blank
      (by decide) (by decide) (by decide)
  have noImage (image : PixelBuffer) : ¬ IsFileOf image (Text.utf8 "P6\n") := fun isFileOf =>
    nomatch ((decode_decides_grammar countedMark).1 image).mpr isFileOf
  exact ⟨counted, isFileOf, ((decode_decides_grammar counted).1 _).mpr isFileOf, countedMark,
    (decode_decides_grammar countedMark).2 noImage⟩

end ShapeScene.Ppm
