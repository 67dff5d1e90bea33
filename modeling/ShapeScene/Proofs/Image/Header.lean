import ShapeScene.Image.Ppm
import ShapeScene.Proofs.Success
import ShapeScene.Proofs.Text.Natural
import ShapeScene.Proofs.Text.Utf8

/-!
# Headers of pixmaps

What stands in front of a field of a header and what makes and ends one is said without the reader.
The reader takes white space and comments to where no more of them follow, and a field to where white
space or nothing follows, so that there is only one way to divide a header into its fields.
-/

namespace ShapeScene.Ppm

/-! ## Parts of a header -/

/-- White space and comments. -/
inductive IsFiller : List UInt8 → Prop where
  /-- Nothing. -/
  | none : IsFiller []
  /-- White space and more filler behind it. -/
  | space {blank : UInt8} (isSpace : isSpace blank = true) {filler : List UInt8}
      (isFiller : IsFiller filler) : IsFiller (blank :: filler)
  /-- A comment, which ends with its line, and more filler behind it. -/
  | comment {words : List UInt8} (oneLine : 0x0A ∉ words) {filler : List UInt8}
      (isFiller : IsFiller filler) : IsFiller (0x23 :: (words ++ 0x0A :: filler))

/-- Filler between two fields. It begins with white space, since a number sign would be part of the
field before it. -/
structure IsGap (bytes : List UInt8) : Prop where
  /-- It is filler. -/
  isFiller : IsFiller bytes
  /-- White space comes first. -/
  opened : ∃ blank filler, bytes = blank :: filler ∧ isSpace blank = true

/-- Bytes behind a field: none, or white space comes first. -/
def StopsField (bytes : List UInt8) : Prop := ∀ byte ∈ bytes.head?, isSpace byte = true

/-- Bytes that make a field. -/
structure IsField (bytes : List UInt8) : Prop where
  /-- The first of them does not begin a comment. -/
  head : ∃ first others, bytes = first :: others ∧ first ≠ 0x23
  /-- None of them is white space. -/
  solid : ∀ byte ∈ bytes, isSpace byte = false

/-! ## Filler -/

/-- White space is passed. -/
theorem skipFiller_cons {space : UInt8} (blank : isSpace space = true) (bytes : List UInt8) :
    skipFiller false (space :: bytes) = skipFiller false bytes := by
  have noComment : space ≠ 0x23 := by
    rintro rfl
    exact absurd blank (by decide)
  rw [skipFiller, if_neg noComment, if_pos blank]

/-- A comment is passed up to the end of its line. -/
theorem skipFiller_comment {words : List UInt8} (oneLine : 0x0A ∉ words) (bytes : List UInt8) :
    skipFiller true (words ++ 0x0A :: bytes) = skipFiller false bytes := by
  induction words with
  | nil => rfl
  | cons word words ih =>
    obtain ⟨other, others⟩ := List.ne_and_not_mem_of_not_mem_cons oneLine
    rw [List.cons_append, skipFiller, bne_iff_ne.mpr other.symm]
    exact ih others

/-- Filler is passed. -/
theorem IsFiller.skipFiller_append {filler : List UInt8} (isFiller : IsFiller filler)
    (bytes : List UInt8) : skipFiller false (filler ++ bytes) = skipFiller false bytes := by
  induction isFiller with
  | none => rfl
  | space blank isFiller ih => rw [List.cons_append, skipFiller_cons blank, ih]
  | comment oneLine isFiller ih =>
    rw [List.cons_append, List.append_assoc, List.cons_append, skipFiller, if_pos rfl,
      skipFiller_comment oneLine, ih]

/-- What is passed is filler, and behind a comment that has begun it is the rest of its line and
filler. The first byte that is left begins neither. -/
theorem exists_filler_of_skipFiller {bytes rest : List UInt8} {first : UInt8} :
    (skipFiller false bytes = first :: rest →
      ∃ filler, IsFiller filler ∧ bytes = filler ++ first :: rest ∧
        first ≠ 0x23 ∧ isSpace first = false) ∧
    (skipFiller true bytes = first :: rest →
      ∃ words filler, 0x0A ∉ words ∧ IsFiller filler ∧
        bytes = words ++ 0x0A :: (filler ++ first :: rest) ∧
        first ≠ 0x23 ∧ isSpace first = false) := by
  induction bytes with
  | nil => exact ⟨(fun left => nomatch left), (fun left => nomatch left)⟩
  | cons byte bytes ih =>
    obtain ⟨outside, inside⟩ := ih
    constructor
    · intro left
      rw [skipFiller] at left
      split at left
      · rename_i begins
        obtain ⟨words, filler, oneLine, isFiller, rfl, leads⟩ := inside left
        refine ⟨_, .comment oneLine isFiller, ?_, leads⟩
        simp only [begins, List.cons_append, List.append_assoc]
      · rename_i noComment
        split at left
        · rename_i blank
          obtain ⟨filler, isFiller, rfl, leads⟩ := outside left
          exact ⟨_, .space blank isFiller, rfl, leads⟩
        · rename_i solid
          obtain ⟨rfl, rfl⟩ := List.cons.inj left
          exact ⟨[], .none, rfl, noComment, Bool.eq_false_of_not_eq_true solid⟩
    · intro left
      rw [skipFiller] at left
      by_cases ends : byte = 0x0A
      · subst ends
        obtain ⟨filler, isFiller, rfl, leads⟩ := outside left
        exact ⟨[], filler, List.not_mem_nil, isFiller, rfl, leads⟩
      · rw [bne_iff_ne.mpr ends] at left
        obtain ⟨words, filler, oneLine, isFiller, rfl, leads⟩ := inside left
        exact ⟨byte :: words, filler, List.not_mem_cons_of_ne_of_not_mem (Ne.symm ends) oneLine,
          isFiller, rfl, leads⟩

/-- Filler that is read where a field has ended begins with white space. -/
theorem IsFiller.isGap {filler field rest : List UInt8} (isFiller : IsFiller filler)
    (isField : IsField field) (stops : StopsField (filler ++ (field ++ rest))) :
    IsGap filler := by
  refine ⟨isFiller, ?_⟩
  cases filler with
  | nil =>
    obtain ⟨first, others, rfl, -⟩ := isField.head
    have blank := stops first rfl
    rw [isField.solid first List.mem_cons_self] at blank
    exact absurd blank Bool.false_ne_true
  | cons blank filler => exact ⟨blank, filler, rfl, stops blank rfl⟩

/-- White space stops a field. -/
theorem stopsField_cons {space : UInt8} (blank : isSpace space = true) (rest : List UInt8) :
    StopsField (space :: rest) := by
  intro byte first
  rwa [← Option.some.inj first]

/-- A gap ends the field before it. -/
theorem IsGap.stopsField {gap : List UInt8} (isGap : IsGap gap) (rest : List UInt8) :
    StopsField (gap ++ rest) := by
  obtain ⟨blank, filler, rfl, isSpace⟩ := isGap.opened
  exact stopsField_cons isSpace (filler ++ rest)

/-! ## Fields -/

/-- A field is read up to what stops it. -/
theorem readField_append {field rest : List UInt8} (isField : IsField field)
    (stops : StopsField rest) : readField (field ++ rest) = .ok (field, rest) := by
  obtain ⟨⟨first, others, rfl, noComment⟩, solid⟩ := isField
  have firstSolid := solid first List.mem_cons_self
  have front : skipFiller false (first :: others ++ rest) = first :: (others ++ rest) := by
    rw [List.cons_append, skipFiller, if_neg noComment, if_neg (by simp [firstSolid])]
  have all : ∀ byte ∈ first :: others, (!isSpace byte) = true := by
    intro byte member
    rw [solid byte member, Bool.not_false]
  have none : rest.takeWhile (fun byte => !isSpace byte) = [] ∧
      rest.dropWhile (fun byte => !isSpace byte) = rest := by
    cases rest with
    | nil => simp
    | cons byte rest => simp [stops byte rfl]
  have taken : (first :: (others ++ rest)).takeWhile (fun byte => !isSpace byte) =
      first :: others := by
    rw [← List.cons_append, List.takeWhile_append_of_pos all, none.1, List.append_nil]
  have left : (first :: (others ++ rest)).dropWhile (fun byte => !isSpace byte) = rest := by
    rw [← List.cons_append, List.dropWhile_append_of_pos all, none.2]
  simp only [readField, front, taken, left]

/-- A field that is read stood in the bytes, and what is behind it stops it. -/
theorem length_readField {bytes field rest : List UInt8}
    (read : readField bytes = .ok (field, rest)) :
    field.length + rest.length ≤ (skipFiller false bytes).length ∧ StopsField rest := by
  unfold readField at read
  split at read
  · cases read
  · rename_i first others front
    obtain ⟨rfl, rfl⟩ := Prod.mk.inj (Except.ok.inj read)
    rw [front]
    refine ⟨?_, fun byte head => ?_⟩
    · exact Nat.le_of_eq (by rw [← List.length_append, List.takeWhile_append_dropWhile])
    · have stopped :=
        List.head?_dropWhile_not (fun byte => !isSpace byte) (first :: others)
      simpa [Option.mem_def.mp head] using stopped

/-- A field is read exactly where filler, its bytes and something that stops it follow each
other. -/
theorem readField_eq_ok_iff {bytes field rest : List UInt8} :
    readField bytes = .ok (field, rest) ↔
      ∃ filler, IsFiller filler ∧ IsField field ∧ StopsField rest ∧
        bytes = filler ++ (field ++ rest) := by
  constructor
  · intro read
    have stops := (length_readField read).2
    unfold readField at read
    split at read
    · cases read
    · rename_i first others left
      obtain ⟨filler, isFiller, divided, noComment, solid⟩ := exists_filler_of_skipFiller.1 left
      obtain ⟨rfl, rfl⟩ := Prod.mk.inj (Except.ok.inj read)
      refine ⟨filler, isFiller, ⟨?_, ?_⟩, stops, ?_⟩
      · rw [List.takeWhile_cons_of_pos (by rw [solid, Bool.not_false])]
        exact ⟨first, _, rfl, noComment⟩
      · intro byte member
        simpa using List.all_eq_true.mp List.all_takeWhile byte member
      · rw [List.takeWhile_append_dropWhile, divided]
  · rintro ⟨filler, isFiller, isField, stops, rfl⟩
    rw [readField, isFiller.skipFiller_append, ← readField]
    exact readField_append isField stops

/-! ## Numbers -/

/-- The texts of a number are ASCII. -/
theorem ascii_of_isNumeral {value : Nat} {chars : List Char}
    (isNumeral : Text.IsNumeral value chars) : ∀ char ∈ chars, char.toNat < 0x80 := by
  intro char member
  rcases isNumeral.toNat_mem member with rfl | digit
  · decide
  · omega

/-- The texts of a number make fields. -/
theorem isField_of_isNumeral {value : Nat} {text : String}
    (isNumeral : Text.IsNumeral value text.toList) : IsField (Text.utf8 text) := by
  have bytes : Text.utf8 text = text.toList.map fun char => UInt8.ofNat char.toNat :=
    Text.flatMap_utf8EncodeChar_ascii (ascii_of_isNumeral isNumeral)
  have code : ∀ byte ∈ Text.utf8 text,
      byte.toNat = 0x2B ∨ 0x30 ≤ byte.toNat ∧ byte.toNat ≤ 0x39 := by
    intro byte member
    rw [bytes] at member
    obtain ⟨char, inText, rfl⟩ := List.mem_map.mp member
    have ascii := ascii_of_isNumeral isNumeral char inText
    rw [Text.toNat_ofNat_byte (by omega)]
    rcases isNumeral.toNat_mem inText with rfl | digit
    · exact .inl rfl
    · exact .inr digit
  have some : Text.utf8 text ≠ [] := by
    rw [bytes, ne_eq, List.map_eq_nil_iff]
    exact isNumeral.ne_nil
  obtain ⟨first, others, divided⟩ := List.exists_cons_of_ne_nil some
  refine ⟨⟨first, others, divided, ?_⟩, fun byte member => ?_⟩
  · rintro rfl
    exact absurd (code 0x23 (divided ▸ List.mem_cons_self)) (by decide)
  · have bounds := code byte member
    simp only [isSpace, Bool.or_eq_false_iff, beq_eq_false_iff_ne, ne_eq, ← UInt8.toNat_inj]
    simp only [UInt8.reduceToNat]
    omega

/-- A number is read exactly where filler, one of its texts and something that stops a field follow
each other. -/
theorem readNumber_eq_ok_iff {bytes rest : List UInt8} {value : UInt32} :
    readNumber bytes = .ok (value, rest) ↔
      ∃ filler text, IsFiller filler ∧ Text.IsNumeral value.toNat text.toList ∧ StopsField rest ∧
        bytes = filler ++ (Text.utf8 text ++ rest) := by
  unfold readNumber
  rw [bind_eq_ok]
  constructor
  · rintro ⟨⟨field, behind⟩, fieldRead, read⟩
    obtain ⟨filler, isFiller, isField, stops, rfl⟩ := readField_eq_ok_iff.mp fieldRead
    simp only at read
    split at read
    · rename_i number numberRead
      obtain ⟨rfl, rfl⟩ := Prod.mk.inj (Except.ok.inj read)
      obtain ⟨isNumeral, below⟩ := Text.readNatural?_eq_some_iff.mp numberRead
      have own := Text.utf8_readUtf8Lenient (ascii_of_isNumeral isNumeral)
      refine ⟨filler, Text.readUtf8Lenient field, isFiller, ?_, stops, by rw [own]⟩
      rwa [UInt32.toNat_ofNat_of_lt' below]
    · cases read
  · rintro ⟨filler, text, isFiller, isNumeral, stops, rfl⟩
    have number := Text.readNatural?_eq_some_iff.mpr
      (show _ ∧ value.toNat < Nat.pow 2 32 from ⟨isNumeral, value.toNat_lt⟩)
    refine ⟨(Text.utf8 text, rest), readField_eq_ok_iff.mpr
      ⟨filler, isFiller, isField_of_isNumeral isNumeral, stops, rfl⟩, ?_⟩
    simp only [Text.readUtf8Lenient_utf8, number, UInt32.ofNat_toNat]

end ShapeScene.Ppm
