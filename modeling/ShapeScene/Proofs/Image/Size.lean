import ShapeScene.Proofs.Raytracer.Complaints
import ShapeScene.Proofs.Storage.Names
import ShapeScene.Proofs.Text.LetterCase
import ShapeScene.Proofs.Text.Natural

/-!
# Sizes in text

A size is read from the texts that write it and from no others: a number, an x in either letter case
and a number, with white space around the numbers. Since the whole text is brought to lowercase
first, it has to be shown that no other character becomes part of a size on the way.
-/

namespace ShapeScene

/-- One side of an image as it may be written: a text of its number between white space. -/
inductive IsSideText (side : Nat) : List Char → Prop where
  /-- The number stands between white space. -/
  | between {left numeral right : List Char} (leftBlank : Text.AllBlank left)
    (isNumeral : Text.IsNumeral side numeral) (rightBlank : Text.AllBlank right) :
    IsSideText side (left ++ (numeral ++ right))

/-- A size as it may be written. -/
inductive ImageSize.IsWritten (size : ImageSize) : List Char → Prop where
  /-- There is an x between the sides, in either letter case. -/
  | sides {before after : List Char} {times : Char} (width : IsSideText size.width.toNat before)
    (isTimes : times = 'x' ∨ times = 'X') (height : IsSideText size.height.toNat after) :
    IsWritten size (before ++ times :: after)

/-! ## Sides -/

/-- A character of a number or white space around it. -/
def IsSideChar (char : Char) : Prop :=
  Text.isBlank char = true ∨ char = '+' ∨ 0x30 ≤ char.toNat ∧ char.toNat ≤ 0x39

/-- The characters of a side. -/
theorem IsSideText.isSideChar {side : Nat} {chars : List Char} (isText : IsSideText side chars)
    {char : Char} (member : char ∈ chars) : IsSideChar char := by
  cases isText with
  | between leftBlank isNumeral rightBlank =>
    rcases List.mem_append.mp member with left | behind
    · exact .inl (leftBlank char left)
    rcases List.mem_append.mp behind with inside | right
    · exact .inr (isNumeral.toNat_mem inside)
    · exact .inl (rightBlank char right)

/-- A number has no white space in it. -/
theorem Text.IsNumeral.isTrimmed {value : Nat} {chars : List Char}
    (isNumeral : IsNumeral value chars) : IsTrimmed chars := by
  have black : ∀ char ∈ chars, isBlank char = false := by
    intro char member
    rcases isNumeral.toNat_mem member with rfl | ⟨above, below⟩
    · decide
    · simp only [isBlank, Bool.or_eq_false_iff, Bool.and_eq_false_iff, decide_eq_false_iff_not,
        beq_eq_false_iff_ne]
      omega
  exact ⟨fun char head => black char (List.mem_of_head? head),
    fun char last => black char (List.mem_of_getLast? last)⟩

/-- A side is read from its texts and from no others. -/
theorem ImageSize.readSide?_eq_some_iff {chars : List Char} {side : UInt32} :
    readSide? chars = some side ↔ IsSideText side.toNat chars := by
  rw [readSide?, Option.map_eq_some_iff]
  constructor
  · rintro ⟨value, read, rfl⟩
    obtain ⟨isNumeral, below⟩ := Text.readNatural?_eq_some_iff.mp read
    obtain ⟨left, right, leftBlank, rightBlank, split⟩ := Text.exists_trimChars chars
    have worth : (UInt32.ofNat value).toNat = value := UInt32.toNat_ofNat_of_lt' below
    rw [split, worth]
    exact .between leftBlank isNumeral rightBlank
  · intro isText
    cases isText with
    | between leftBlank isNumeral rightBlank =>
      refine ⟨side.toNat, ?_, UInt32.ofNat_toNat⟩
      rw [Text.trimChars_between leftBlank isNumeral.isTrimmed rightBlank]
      exact Text.readNatural?_eq_some_iff.mpr ⟨isNumeral, side.toNat_lt⟩

/-! ## Characters in lowercase -/

/-- The code points of all characters that a size in lowercase has. -/
def sizeCodes : List Nat := 'x'.toNat :: '+'.toNat :: (List.range' 0x30 10 ++ Text.blankCodes)

/-- The characters of a side have such code points. -/
theorem IsSideChar.toNat_mem {char : Char} (isSideChar : IsSideChar char) :
    char.toNat ∈ sizeCodes := by
  apply List.mem_cons_of_mem
  rcases isSideChar with blank | rfl | ⟨above, below⟩
  · exact List.mem_cons_of_mem _ (List.mem_append_right _ (Text.mem_blankCodes blank))
  · exact List.mem_cons_self
  · exact List.mem_cons_of_mem _
      (List.mem_append_left _ (List.mem_range'_1.mpr ⟨above, Nat.lt_succ_of_le below⟩))

/-- An x is no character of a side. -/
theorem not_isSideChar_x : ¬ IsSideChar 'x' := by
  rintro (blank | same | ⟨-, below⟩)
  · exact absurd blank (by decide)
  · exact absurd same (by decide)
  · exact absurd below (by decide)

/-- Of all lowercase letters only the x has such a code point, and its capital is the one of
ASCII. -/
theorem capital_of_mem_sizeCodes : ∀ run ∈ Text.lowercaseRuns, ∀ code ∈ sizeCodes,
    run.lower ≤ code → code ≤ run.lower + (run.last - run.first) →
      code = 0x78 ∧ run.first = 0x41 ∧ run.lower = 0x61 := by
  decide +kernel

/-- Every character has a lowercase form. -/
theorem lowercaseChar_ne_nil (char : Char) : Text.lowercaseChar char ≠ [] := by
  unfold Text.lowercaseChar
  split <;> exact List.cons_ne_nil _ _

/-- A character of a size is its own lowercase form, but for the x. -/
def IsFormOf (char lower : Char) : Prop := char = lower ∨ char = 'X' ∧ lower = 'x'

/-- What becomes a character of a size is that character or a capital x. -/
theorem isFormOf_of_mem_lowercaseChar {char lower : Char}
    (member : lower ∈ Text.lowercaseChar char) (listed : lower.toNat ∈ sizeCodes) :
    Text.lowercaseChar char = [lower] ∧ IsFormOf char lower := by
  unfold Text.lowercaseChar at member ⊢
  by_cases dotted : char = '\u0130'
  · rw [if_pos dotted, List.mem_cons, List.mem_singleton] at member
    rcases member with rfl | rfl <;> exact absurd listed (by decide)
  rw [if_neg dotted] at member ⊢
  obtain rfl := List.mem_singleton.mp member
  refine ⟨rfl, ?_⟩
  rcases Text.CaseRun.lowered_cases Text.lowercaseRuns char.toNat with
    same | ⟨run, inRuns, has, found⟩
  · rw [same, Char.ofNat_toNat]
    exact .inl rfl
  · have back : (Char.ofNat (run.lower + (char.toNat - run.first))).toNat =
        run.lower + (char.toNat - run.first) := by
      rw [Char.ofNat, dif_pos (Text.CaseRun.isValidChar_of_has inRuns has)]
      rfl
    obtain ⟨above, below, -⟩ := has
    rw [found, back] at listed
    obtain ⟨isX, first, small⟩ := capital_of_mem_sizeCodes run inRuns _ listed
      (Nat.le_add_right _ _) (Nat.add_le_add_left (Nat.sub_le_sub_right below _) _)
    rw [found, isX]
    have capital : char.toNat = 0x58 := by
      rw [first] at above isX
      omega
    rw [← Char.ofNat_toNat char, capital]
    exact .inr ⟨rfl, rfl⟩

/-- The first character of a lowercase form shows the first one of the text. -/
theorem exists_cons_of_lowercaseAfter {behind chars rest : List Char} {lower : Char}
    (lowered : Text.lowercaseAfter behind chars = lower :: rest)
    (listed : lower.toNat ∈ sizeCodes) :
    ∃ char later, chars = char :: later ∧ IsFormOf char lower ∧
      Text.lowercaseAfter (char :: behind) later = rest := by
  cases chars with
  | nil => cases lowered
  | cons char later =>
    refine ⟨char, later, rfl, ?_⟩
    rw [Text.lowercaseAfter] at lowered
    by_cases sigma : char = 'Σ'
    · rw [if_pos sigma] at lowered
      obtain rfl := (List.cons.inj lowered).1
      unfold Text.lowercaseSigma at listed
      split at listed <;> exact absurd listed (by decide)
    · rw [if_neg sigma] at lowered
      obtain ⟨first, others, form⟩ := List.exists_cons_of_ne_nil (lowercaseChar_ne_nil char)
      rw [form] at lowered
      obtain rfl := (List.cons.inj lowered).1
      have member : first ∈ Text.lowercaseChar char := form ▸ List.mem_cons_self
      obtain ⟨single, isForm⟩ := isFormOf_of_mem_lowercaseChar member listed
      obtain rfl := (List.cons.inj (form.symm.trans single)).2
      exact ⟨isForm, (List.cons.inj lowered).2⟩

/-- A side in front of a lowercase form stands in front of the text. -/
theorem exists_append_of_lowercaseAfter {behind chars side rest : List Char}
    (lowered : Text.lowercaseAfter behind chars = side ++ rest)
    (isSide : ∀ char ∈ side, IsSideChar char) :
    ∃ later, chars = side ++ later ∧
      Text.lowercaseAfter (side.reverse ++ behind) later = rest := by
  induction side generalizing behind chars with
  | nil => exact ⟨chars, rfl, lowered⟩
  | cons lower side ih =>
    obtain ⟨here, others⟩ := List.forall_mem_cons.mp isSide
    obtain ⟨char, more, rfl, isForm, after⟩ :=
      exists_cons_of_lowercaseAfter lowered here.toNat_mem
    rcases isForm with rfl | ⟨-, rfl⟩
    · obtain ⟨later, rfl, done⟩ := ih after others
      exact ⟨later, rfl, by rwa [List.reverse_cons, List.append_assoc]⟩
    · exact absurd here not_isSideChar_x

/-- Nothing has an empty lowercase form but the empty text. -/
theorem eq_nil_of_lowercaseAfter {behind chars : List Char}
    (lowered : Text.lowercaseAfter behind chars = []) : chars = [] := by
  cases chars with
  | nil => rfl
  | cons char later =>
    rw [Text.lowercaseAfter] at lowered
    split at lowered
    · cases lowered
    · exact absurd (List.append_eq_nil_iff.mp lowered).1 (lowercaseChar_ne_nil char)

/-- A side is its own lowercase form. -/
theorem IsSideChar.isLowercase {char : Char} (isSideChar : IsSideChar char) :
    Text.IsLowercase char := by
  have kept : ∀ code ∈ sizeCodes, Text.IsLowercase (Char.ofNat code) := by decide +kernel
  have one := kept char.toNat isSideChar.toNat_mem
  rwa [Char.ofNat_toNat] at one

/-! ## Sizes -/

namespace ImageSize

/-- The sides of a size as it is written are found in the lowercase form. -/
theorem IsWritten.exists_split {size : ImageSize} {chars : List Char}
    (isWritten : size.IsWritten chars) :
    ∃ before after, Text.splitFirst (· = 'x') (Text.lowercaseChars chars) = some (before, after) ∧
      readSide? before = some size.width ∧ readSide? after = some size.height := by
  obtain @⟨before, after, times, width, isTimes, height⟩ := isWritten
  refine ⟨before, after, ?_, readSide?_eq_some_iff.mpr width, readSide?_eq_some_iff.mpr height⟩
  have sameTimes : Text.SameLetter times 'x' := by
    rcases isTimes with rfl | rfl <;> decide
  have same : List.Forall₂ Text.SameLetter (before ++ times :: after) (before ++ 'x' :: after) :=
    List.rel_append (List.forall₂_same.mpr fun char _ => .refl char)
      (.cons sameTimes (List.forall₂_same.mpr fun char _ => .refl char))
  have lower : ∀ char ∈ before ++ 'x' :: after, Text.IsLowercase char := by
    intro char member
    rcases List.mem_append.mp member with left | behind
    · exact (width.isSideChar left).isLowercase
    rcases List.mem_cons.mp behind with rfl | right
    · decide +kernel
    · exact (height.isSideChar right).isLowercase
  have noTimes : ∀ char ∈ before, decide (char = 'x') = false := by
    intro char member
    refine decide_eq_false fun isX => not_isSideChar_x ?_
    rw [← isX]
    exact width.isSideChar member
  rw [Text.lowercaseChars_recased same, Text.lowercaseChars_of_isLowercase lower]
  exact Text.splitFirst_append noTimes (decide_eq_true rfl) after

/-- Sides that are found in the lowercase form are those of a size as it is written. -/
theorem isWritten_of_split {width height : UInt32} {chars before after : List Char}
    (split : Text.splitFirst (· = 'x') (Text.lowercaseChars chars) = some (before, after))
    (left : readSide? before = some width) (right : readSide? after = some height) :
    IsWritten ⟨width, height⟩ chars := by
  have leftText := readSide?_eq_some_iff.mp left
  have rightText := readSide?_eq_some_iff.mp right
  obtain ⟨separator, isX, lowered⟩ := Text.splitFirst_eq_some split
  obtain rfl := of_decide_eq_true isX
  obtain ⟨rest, rfl, found⟩ :=
    exists_append_of_lowercaseAfter lowered fun _ => leftText.isSideChar
  obtain ⟨times, last, rfl, isForm, behind⟩ :=
    exists_cons_of_lowercaseAfter found (List.mem_cons_self)
  rw [← List.append_nil after] at behind
  obtain ⟨nothing, rfl, none⟩ :=
    exists_append_of_lowercaseAfter behind fun _ => rightText.isSideChar
  obtain rfl := eq_nil_of_lowercaseAfter none
  rw [List.append_nil]
  exact .sides leftText (isForm.imp id And.left) rightText

/-- A text that writes a size is read as that size, unless a side is zero or too long. -/
theorem IsWritten.parse {size : ImageSize} {written : String}
    (isWritten : size.IsWritten written.toList) :
    parse written =
      if size.width = 0 ∨ size.height = 0 then .error (malformed written)
      else if maxSide < size.width.toNat ∨ maxSide < size.height.toNat then .error size.tooLarge
      else .ok size := by
  obtain ⟨before, after, split, left, right⟩ := isWritten.exists_split
  simp only [ImageSize.parse, split, left, right]

/-- Any other text is malformed. -/
theorem parse_of_not_isWritten {written : String}
    (none : ∀ size : ImageSize, ¬ size.IsWritten written.toList) :
    parse written = .error (malformed written) := by
  unfold parse
  split
  · rfl
  · rename_i before after split
    split
    · rename_i width height left right
      exact absurd (isWritten_of_split split left right) (none ⟨width, height⟩)
    · rfl

/-- A size writes itself. -/
theorem isWritten_text (size : ImageSize) : size.IsWritten size.text.toList := by
  have side (number : Nat) : IsSideText number (toString number).toList := by
    have alone := IsSideText.between Text.AllBlank.nil (Text.isNumeral_toString number)
      Text.AllBlank.nil
    rwa [List.append_nil] at alone
  have whole := IsWritten.sides (side size.width.toNat) (.inl rfl) (side size.height.toNat)
  rw [text, String.toList_append, String.toList_append, List.append_assoc]
  exact whole

/-- A text is read as a size exactly when it writes that size and the size is in bounds. -/
theorem parse_eq_ok_iff {written : String} {size : ImageSize} :
    parse written = .ok size ↔ size.IsWritten written.toList ∧ size.InBounds := by
  constructor
  · intro read
    refine ⟨?_, inBounds_of_parse read⟩
    by_cases writes : ∃ other : ImageSize, other.IsWritten written.toList
    · obtain ⟨other, isWritten⟩ := writes
      have same := isWritten.parse.symm.trans read
      split at same
      · cases same
      · split at same
        · cases same
        · rwa [← Except.ok.inj same]
    · rw [parse_of_not_isWritten (not_exists.mp writes)] at read
      cases read
  · rintro ⟨isWritten, ⟨wide, narrow⟩, ⟨high, low⟩⟩
    rw [isWritten.parse, if_neg, if_neg]
    · exact not_or.mpr ⟨Nat.not_lt.mpr narrow, Nat.not_lt.mpr low⟩
    · exact not_or.mpr ⟨one_le_toNat_iff.mp wide, one_le_toNat_iff.mp high⟩

/-- The text of a size is read as that size when it is in bounds, and otherwise as none. -/
theorem parse_text_eq_ok_iff {size read : ImageSize} :
    parse size.text = .ok read ↔ read = size ∧ size.InBounds := by
  constructor
  · intro same
    have own := (isWritten_text size).parse
    rw [same] at own
    split at own
    · cases own
    · split at own
      · cases own
      · cases own
        exact ⟨rfl, inBounds_of_parse same⟩
  · rintro ⟨rfl, bounds⟩
    exact parse_eq_ok_iff.mpr ⟨isWritten_text read, bounds⟩

/-- A text that is not read as a size is an invalid argument. -/
theorem exists_invalidArgument {written : String} {error : SceneError}
    (refused : parse written = .error error) : ∃ message, error = .invalidArgument message := by
  unfold parse at refused
  split at refused
  · cases refused
    exact ⟨_, rfl⟩
  · split at refused
    · dsimp only at refused
      split at refused
      · cases refused
        exact ⟨_, rfl⟩
      · split at refused
        · cases refused
          exact ⟨_, rfl⟩
        · cases refused
    · cases refused
      exact ⟨_, rfl⟩

/-- A text is read as a size exactly when it writes that size and the size is in bounds; every other
text is an invalid argument. A size that was read is read again from its own text, and of all sizes
those in bounds are. -/
theorem parse_decides_sizes (written : String) (size : ImageSize) :
    (parse written = .ok size ↔ size.IsWritten written.toList ∧ size.InBounds) ∧
      ((∃ read, parse written = .ok read ∧ parse read.text = .ok read) ∨
        ∃ message, parse written = .error (.invalidArgument message)) ∧
      ((∃ read, parse size.text = .ok read) ↔ size.InBounds) := by
  refine ⟨parse_eq_ok_iff, ?_, ?_⟩
  · cases result : parse written with
    | ok read =>
      exact .inl ⟨read, rfl, parse_text_eq_ok_iff.mpr ⟨rfl, inBounds_of_parse result⟩⟩
    | error error =>
      obtain ⟨message, rfl⟩ := exists_invalidArgument result
      exact .inr ⟨message, rfl⟩
  · constructor
    · rintro ⟨read, same⟩
      exact (parse_text_eq_ok_iff.mp same).2
    · exact fun bounds => ⟨size, parse_text_eq_ok_iff.mpr ⟨rfl, bounds⟩⟩

/-- Zeros and a sign in front and wide white space are part of a size; the sign of the Kelvin scale
and a number that is too long for a machine word are not. -/
example : parse "\u3000+0320 X 8192\n" = .ok ⟨320, 8192⟩ ∧
    parse "\u212Ax1" = .error (malformed "\u212Ax1") ∧
    parse "4294967297x1" = .error (malformed "4294967297x1") := by
  decide +kernel

end ImageSize

end ShapeScene
