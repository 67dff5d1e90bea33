import ShapeScene.Proofs.Text.Trimming
import ShapeScene.Text.Lowercase

/-!
# Lowercase text in pieces

A capital sigma looks at its neighbours, so the lowercase form of a text is not that of its
characters. It is that of its pieces where they meet at white space or a comma, since no sigma looks
beyond these. What is in lowercase stays as it is.
-/

namespace ShapeScene.Text

/-- A character at which the context of a sigma ends: it is its own lowercase form, has no case and
is not passed over. -/
structure IsCaseBreak (char : Char) : Prop where
  /-- It is not passed over in the search for a cased character. -/
  seen : CodeRange.cover caseIgnorableRanges char.toNat = false
  /-- It has no case. -/
  caseless : CodeRange.cover casedRanges char.toNat = false
  /-- It is no sigma. -/
  ne_sigma : char ≠ 'Σ'
  /-- It is its own lowercase form. -/
  fixed : lowercaseChar char = [char]

/-- The code points of white space. -/
def blankCodes : List Nat :=
  [9, 10, 11, 12, 13, 0x20, 0x85, 0xA0, 0x1680] ++ List.range' 0x2000 11 ++
    [0x2028, 0x2029, 0x202F, 0x205F, 0x3000]

/-- White space has one of these code points. -/
theorem mem_blankCodes {char : Char} (blank : isBlank char = true) : char.toNat ∈ blankCodes := by
  simp only [isBlank, Bool.or_eq_true, Bool.and_eq_true, decide_eq_true_eq, beq_iff_eq] at blank
  simp only [blankCodes, List.mem_append, List.mem_cons, List.mem_range'_1, List.not_mem_nil]
  omega

instance (char : Char) : Decidable (IsCaseBreak char) :=
  decidable_of_iff
    (CodeRange.cover caseIgnorableRanges char.toNat = false ∧
      CodeRange.cover casedRanges char.toNat = false ∧ char ≠ 'Σ' ∧ lowercaseChar char = [char])
    ⟨fun ⟨seen, caseless, ne_sigma, fixed⟩ => ⟨seen, caseless, ne_sigma, fixed⟩,
      fun ⟨seen, caseless, ne_sigma, fixed⟩ => ⟨seen, caseless, ne_sigma, fixed⟩⟩

/-- A comma ends the context of a sigma. -/
theorem isCaseBreak_comma : IsCaseBreak ',' := by decide +kernel

/-- A property of all white space is checked code point by code point. -/
theorem of_isBlank (property : Char → Prop)
    (all : ∀ code ∈ blankCodes, property (Char.ofNat code)) {char : Char}
    (blank : isBlank char = true) : property char := by
  have one := all char.toNat (mem_blankCodes blank)
  rwa [Char.ofNat_toNat] at one

/-- White space ends the context of a sigma. -/
theorem isCaseBreak_of_isBlank {char : Char} (blank : isBlank char = true) : IsCaseBreak char :=
  of_isBlank IsCaseBreak (by decide +kernel) blank

/-- A word does not go on in white space. -/
theorem isWordChar_of_isBlank {char : Char} (blank : isBlank char = true) :
    isWordChar char = false :=
  of_isBlank (isWordChar · = false) (by decide +kernel) blank

/-- The search for a cased character ends at a break. -/
theorem meetsCased_break {char : Char} (breaks : IsCaseBreak char) (before after : List Char) :
    meetsCased (before ++ char :: after) = meetsCased before := by
  unfold meetsCased
  induction before with
  | nil =>
    simp only [List.nil_append, List.dropWhile_cons, breaks.seen, Bool.false_eq_true, if_false]
    exact breaks.caseless
  | cons first before ih =>
    simp only [List.cons_append, List.dropWhile_cons]
    by_cases passed : CodeRange.cover caseIgnorableRanges first.toNat = true
    · simp only [if_pos passed]
      exact ih
    · simp only [if_neg passed]

/-- What lies before a break does not count behind it. -/
theorem lowercaseAfter_behind {char : Char} (breaks : IsCaseBreak char)
    (near far chars : List Char) :
    lowercaseAfter (near ++ char :: far) chars = lowercaseAfter near chars := by
  induction chars generalizing near with
  | nil => rfl
  | cons first chars ih =>
    have later := ih (first :: near)
    rw [List.cons_append] at later
    simp only [lowercaseAfter, lowercaseSigma, meetsCased_break breaks, later]

/-- Lowercase of two pieces with a break between them, behind some text. -/
theorem lowercaseAfter_break {char : Char} (breaks : IsCaseBreak char)
    (before left right : List Char) :
    lowercaseAfter before (left ++ char :: right) =
      lowercaseAfter before left ++ char :: lowercaseChars right := by
  induction left generalizing before with
  | nil =>
    simp only [List.nil_append, lowercaseAfter, if_neg breaks.ne_sigma, breaks.fixed,
      List.cons_append, List.cons.injEq, true_and]
    exact lowercaseAfter_behind breaks [] before right
  | cons first left ih =>
    simp only [List.cons_append, lowercaseAfter, lowercaseSigma, meetsCased_break breaks,
      ih, List.append_assoc]

/-- Lowercase of two pieces with a break between them. -/
theorem lowercaseChars_break {char : Char} (breaks : IsCaseBreak char) (left right : List Char) :
    lowercaseChars (left ++ char :: right) = lowercaseChars left ++ char :: lowercaseChars right :=
  lowercaseAfter_break breaks [] left right

/-- White space before a text stays. -/
theorem lowercaseChars_blank_append {blanks : List Char} (blank : AllBlank blanks)
    (chars : List Char) :
    lowercaseChars (blanks ++ chars) = blanks ++ lowercaseChars chars := by
  induction blanks with
  | nil => rfl
  | cons first blanks ih =>
    have breaks := isCaseBreak_of_isBlank (blank first List.mem_cons_self)
    have rest := ih fun char member => blank char (List.mem_cons_of_mem first member)
    rw [List.cons_append, List.cons_append, ← rest]
    exact lowercaseChars_break breaks [] (blanks ++ chars)

/-- White space behind a text stays. -/
theorem lowercaseChars_append_blank {blanks : List Char} (blank : AllBlank blanks)
    (chars : List Char) :
    lowercaseChars (chars ++ blanks) = lowercaseChars chars ++ blanks := by
  cases blanks with
  | nil => simp only [List.append_nil]
  | cons first blanks =>
    have breaks := isCaseBreak_of_isBlank (blank first List.mem_cons_self)
    have rest := lowercaseChars_blank_append
      (fun char member => blank char (List.mem_cons_of_mem first member)) []
    rw [List.append_nil] at rest
    rw [lowercaseChars_break breaks, rest]
    exact congrArg _ (congrArg _ (List.append_nil _))

/-- A character that is its own lowercase form wherever it stands. -/
structure IsLowercase (char : Char) : Prop where
  /-- It is no capital sigma. -/
  ne_sigma : char ≠ 'Σ'
  /-- It is its own lowercase form. -/
  fixed : lowercaseChar char = [char]

instance (char : Char) : Decidable (IsLowercase char) :=
  decidable_of_iff (char ≠ 'Σ' ∧ lowercaseChar char = [char])
    ⟨fun ⟨ne_sigma, fixed⟩ => ⟨ne_sigma, fixed⟩, fun ⟨ne_sigma, fixed⟩ => ⟨ne_sigma, fixed⟩⟩

/-- A text of lowercase characters stays as it is. -/
theorem lowercaseChars_of_isLowercase {chars : List Char}
    (lower : ∀ char ∈ chars, IsLowercase char) : lowercaseChars chars = chars := by
  suffices behind : ∀ before, lowercaseAfter before chars = chars from behind []
  induction chars with
  | nil => exact fun _ => rfl
  | cons first chars ih =>
    intro before
    have one := lower first List.mem_cons_self
    have rest := ih fun char member => lower char (List.mem_cons_of_mem first member)
    simp only [lowercaseAfter, if_neg one.ne_sigma, one.fixed, rest, List.cons_append,
      List.nil_append]

namespace CaseRun

/-- Whether a code point is one of the capitals of a run. -/
def Has (run : CaseRun) (code : Nat) : Prop :=
  run.first ≤ code ∧ code ≤ run.last ∧ (code - run.first) % run.step = 0

/-- Whether no lowercase letter of a run is a capital of another one. Runs in which capitals and
lowercase letters take turns may overlap. -/
def avoids (run other : CaseRun) : Bool :=
  Nat.blt (run.lower + (run.last - run.first)) other.first || Nat.blt other.last run.lower ||
    ((run.step == 2 || run.first == run.last) && other.step == 2 &&
      (run.lower + other.first) % 2 == 1)

/-- A lowercase letter of a run is no capital of one that the run avoids. -/
theorem not_has_of_avoids {run other : CaseRun} (avoids : run.avoids other = true) {code : Nat}
    (has : run.Has code) : ¬ other.Has (run.lower + (code - run.first)) := by
  obtain ⟨above, below, step⟩ := has
  rintro ⟨otherAbove, otherBelow, otherStep⟩
  simp only [CaseRun.avoids, Bool.or_eq_true, Bool.and_eq_true, beq_iff_eq, Nat.blt_eq] at avoids
  rcases avoids with (before | behind) | ⟨⟨two | single, otherTwo⟩, odd⟩
  · omega
  · omega
  · rw [two] at step
    rw [otherTwo] at otherStep
    omega
  · rw [otherTwo] at otherStep
    omega

/-- A code point stays that is no capital, and a capital gives the lowercase letter of its run. -/
theorem lowered_cases (runs : List CaseRun) (code : Nat) :
    lowered runs code = code ∨
      ∃ run ∈ runs, run.Has code ∧ lowered runs code = run.lower + (code - run.first) := by
  induction runs with
  | nil => exact .inl rfl
  | cons run later ih =>
    unfold lowered
    by_cases early : code < run.first
    · exact .inl (if_pos early)
    rw [if_neg early]
    by_cases within : code ≤ run.last
    · rw [if_pos within]
      by_cases step : (code - run.first) % run.step = 0
      · exact .inr ⟨run, List.mem_cons_self, ⟨by omega, within, step⟩, if_pos step⟩
      · exact .inl (if_neg step)
    · rw [if_neg within]
      rcases ih with same | ⟨other, member, has, found⟩
      · exact .inl same
      · exact .inr ⟨other, List.mem_cons_of_mem run member, has, found⟩

/-- A code point that is no capital stays. -/
theorem lowered_of_not_has {runs : List CaseRun} {code : Nat}
    (none : ∀ run ∈ runs, ¬ run.Has code) : lowered runs code = code := by
  rcases lowered_cases runs code with same | ⟨run, member, has, _⟩
  · exact same
  · exact absurd has (none run member)

/-- The capital I with a dot, as a run of its own. -/
def dotted : CaseRun := ⟨0x130, 0x130, 1, 0x69⟩

/-- Lowercase letters are no capitals, so the table leads to them in one step. -/
theorem avoids_lowercaseRuns :
    (lowercaseRuns.all fun run => (dotted :: lowercaseRuns).all run.avoids) = true := by
  decide +kernel

/-- No run leads to surrogates or beyond the last code point. -/
theorem lower_lowercaseRuns :
    ∀ run ∈ lowercaseRuns, run.lower + (run.last - run.first) < 0xD800 ∨
      0xE000 ≤ run.lower ∧ run.lower + (run.last - run.first) < 0x110000 := by
  decide +kernel

/-- The lowercase letters of the table are characters. -/
theorem isValidChar_of_has {run : CaseRun} (listed : run ∈ lowercaseRuns) {code : Nat}
    (has : run.Has code) : (run.lower + (code - run.first)).isValidChar := by
  have bounds := lower_lowercaseRuns run listed
  obtain ⟨above, below, _⟩ := has
  unfold Nat.isValidChar
  omega

end CaseRun

/-- The code point of a sigma is a capital of the table. -/
theorem sigma_not_fixed : CaseRun.lowered lowercaseRuns 'Σ'.toNat ≠ 'Σ'.toNat := by decide +kernel

/-- A character that the table keeps is in lowercase. -/
theorem isLowercase_of_lowered {char : Char}
    (same : CaseRun.lowered lowercaseRuns char.toNat = char.toNat) (plain : char ≠ '\u0130') :
    IsLowercase char where
  ne_sigma := by
    rintro rfl
    exact sigma_not_fixed same
  fixed := by rw [lowercaseChar, if_neg plain, same, Char.ofNat_toNat]

/-- A lowercase letter of the table is in lowercase. -/
theorem isLowercase_of_has {run : CaseRun} (listed : run ∈ lowercaseRuns) {code : Nat}
    (has : run.Has code) : IsLowercase (Char.ofNat (run.lower + (code - run.first))) := by
  have avoided := List.all_eq_true.mp CaseRun.avoids_lowercaseRuns run listed
  have free (other : CaseRun) (among : other ∈ CaseRun.dotted :: lowercaseRuns) :
      ¬ other.Has (run.lower + (code - run.first)) :=
    CaseRun.not_has_of_avoids (List.all_eq_true.mp avoided other among) has
  have back : (Char.ofNat (run.lower + (code - run.first))).toNat =
      run.lower + (code - run.first) := by
    rw [Char.ofNat, dif_pos (CaseRun.isValidChar_of_has listed has)]
    rfl
  apply isLowercase_of_lowered
  · rw [back]
    exact CaseRun.lowered_of_not_has fun other among => free other (List.mem_cons_of_mem _ among)
  · intro dotted
    apply free CaseRun.dotted List.mem_cons_self
    rw [← back, dotted]
    exact ⟨by decide, by decide, by decide⟩

/-- The lowercase form of a character is in lowercase. -/
theorem isLowercase_of_mem_lowercaseChar {char lower : Char}
    (member : lower ∈ lowercaseChar char) : IsLowercase lower := by
  unfold lowercaseChar at member
  by_cases dotted : char = '\u0130'
  · rw [if_pos dotted, List.mem_cons, List.mem_singleton] at member
    rcases member with rfl | rfl <;> decide +kernel
  rw [if_neg dotted] at member
  obtain rfl := List.mem_singleton.mp member
  rcases CaseRun.lowered_cases lowercaseRuns char.toNat with same | ⟨run, listed, has, found⟩
  · rw [same, Char.ofNat_toNat]
    exact isLowercase_of_lowered same dotted
  · rw [found]
    exact isLowercase_of_has listed has

/-- Both lowercase forms of a sigma are in lowercase. -/
theorem isLowercase_lowercaseSigma (before after : List Char) :
    IsLowercase (lowercaseSigma before after) := by
  unfold lowercaseSigma
  split <;> decide +kernel

/-- The lowercase form of a text is in lowercase. -/
theorem isLowercase_of_mem_lowercaseChars {chars : List Char} {lower : Char}
    (member : lower ∈ lowercaseChars chars) : IsLowercase lower := by
  suffices behind : ∀ before, lower ∈ lowercaseAfter before chars → IsLowercase lower from
    behind [] member
  clear member
  induction chars with
  | nil => exact fun _ member => absurd member List.not_mem_nil
  | cons first chars ih =>
    intro before member
    rw [lowercaseAfter, List.mem_append] at member
    rcases member with here | later
    · by_cases sigma : first = 'Σ'
      · rw [if_pos sigma, List.mem_singleton] at here
        rw [here]
        exact isLowercase_lowercaseSigma before chars
      · rw [if_neg sigma] at here
        exact isLowercase_of_mem_lowercaseChar here
    · exact ih (first :: before) later

end ShapeScene.Text
