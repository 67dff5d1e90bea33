import ShapeScene.Proofs.Text.Lowercase

/-!
# Lowercase text in its context

The lowercase form of a text is put together from those of its pieces, each with what stands before
it and behind it. Only a capital sigma needs to know, so a piece whose own lowercase form has no
sigma has the same form everywhere. All capitals are letters: what is no letter stays as it is, and
so the neighbours of a run of letters are the same in the lowercase form.
-/

namespace ShapeScene.Text

/-- Lowercase of `chars` when the reversed text before them is `before` and the text behind them is
`after`. -/
def lowercaseWithin : (before chars after : List Char) → List Char
  | _, [], _ => []
  | before, char :: rest, after =>
    (if char = 'Σ' then [lowercaseSigma before (rest ++ after)] else lowercaseChar char) ++
      lowercaseWithin (char :: before) rest after

/-- A text is put together from its pieces. -/
theorem lowercaseWithin_append (before first second after : List Char) :
    lowercaseWithin before (first ++ second) after =
      lowercaseWithin before first (second ++ after) ++
        lowercaseWithin (first.reverse ++ before) second after := by
  induction first generalizing before with
  | nil => rfl
  | cons char first ih =>
    rw [List.cons_append, lowercaseWithin, lowercaseWithin, ih, List.reverse_cons,
      List.append_assoc, List.append_assoc, List.append_assoc, List.singleton_append]

/-- A whole text has nothing behind it. -/
theorem lowercaseWithin_nil (before chars : List Char) :
    lowercaseWithin before chars [] = lowercaseAfter before chars := by
  induction chars generalizing before with
  | nil => rfl
  | cons char chars ih => rw [lowercaseWithin, lowercaseAfter, ih, List.append_nil]

/-- The lowercase form of a text around a piece of it. -/
theorem lowercaseChars_around (left piece right : List Char) :
    lowercaseChars (left ++ (piece ++ right)) =
      lowercaseWithin [] left (piece ++ right) ++
        (lowercaseWithin left.reverse piece right ++
          lowercaseWithin (piece.reverse ++ left.reverse) right []) := by
  rw [lowercaseChars, ← lowercaseWithin_nil, lowercaseWithin_append, lowercaseWithin_append,
    List.append_nil, List.append_nil, List.append_nil]

/-! ## Pieces without a sigma -/

/-- Without a capital sigma the context of a piece makes no difference. -/
theorem lowercaseWithin_eq_flatMap {chars : List Char} (plain : 'Σ' ∉ chars)
    (before after : List Char) :
    lowercaseWithin before chars after = chars.flatMap lowercaseChar := by
  induction chars generalizing before with
  | nil => rfl
  | cons char chars ih =>
    rw [List.mem_cons, not_or] at plain
    rw [lowercaseWithin, if_neg fun sigma => plain.1 sigma.symm, ih plain.2, List.flatMap_cons]

/-- A capital sigma leaves a sigma. -/
theorem sigma_mem_lowercaseWithin {chars : List Char} (sigma : 'Σ' ∈ chars)
    (before after : List Char) :
    'σ' ∈ lowercaseWithin before chars after ∨ 'ς' ∈ lowercaseWithin before chars after := by
  induction chars generalizing before with
  | nil => cases sigma
  | cons char chars ih =>
    simp only [lowercaseWithin, List.mem_append]
    rcases List.mem_cons.mp sigma with rfl | later
    · rw [if_pos rfl, List.mem_singleton, List.mem_singleton, lowercaseSigma]
      split
      · exact .inr (.inl rfl)
      · exact .inl (.inl rfl)
    · exact (ih later _).imp .inr .inr

/-- A piece has its own lowercase form in every context when that has no sigma. -/
theorem lowercaseWithin_eq_lowercaseChars {chars : List Char}
    (plain : 'σ' ∉ lowercaseChars chars ∧ 'ς' ∉ lowercaseChars chars) (before after : List Char) :
    lowercaseWithin before chars after = lowercaseChars chars := by
  rw [lowercaseChars, ← lowercaseWithin_nil] at plain ⊢
  have none : 'Σ' ∉ chars := fun sigma =>
    (sigma_mem_lowercaseWithin sigma [] []).elim plain.1 plain.2
  rw [lowercaseWithin_eq_flatMap none, lowercaseWithin_eq_flatMap none]

/-! ## Characters that stay -/

/-- Whether one of the ascending ranges holds an interval of code points. -/
def CodeRange.holdInterval : List CodeRange → (first last : Nat) → Bool
  | [], _, _ => false
  | (low, high) :: later, first, last =>
    Nat.ble low first && (Nat.ble last high || holdInterval later first last)

/-- Ranges that hold an interval cover its code points. -/
theorem CodeRange.cover_of_holdInterval {ranges : List CodeRange} {first last code : Nat}
    (held : holdInterval ranges first last = true) (above : first ≤ code) (below : code ≤ last) :
    cover ranges code = true := by
  induction ranges with
  | nil => cases held
  | cons range later ih =>
    rw [holdInterval, Bool.and_eq_true, Bool.or_eq_true, Nat.ble_eq, Nat.ble_eq] at held
    rw [cover, if_neg (by omega)]
    by_cases within : code ≤ range.2
    · exact if_pos within
    · rw [if_neg within]
      exact ih (held.2.resolve_left fun inside => within (Nat.le_trans below inside))

/-- Whether the capitals of a run are letters. -/
def CaseRun.alphabetic (run : CaseRun) : Bool :=
  CodeRange.holdInterval alphabeticRanges run.first run.last ||
    (List.range' run.first (run.last - run.first + 1)).all fun code =>
      (code - run.first) % run.step != 0 || CodeRange.cover alphabeticRanges code

/-- All capitals are letters. -/
theorem alphabetic_lowercaseRuns : lowercaseRuns.all CaseRun.alphabetic = true := by
  decide +kernel

/-- A capital of a run of letters is a letter. -/
theorem CaseRun.alphabetic_of_has {run : CaseRun} (letters : run.alphabetic = true) {code : Nat}
    (has : run.Has code) : CodeRange.cover alphabeticRanges code = true := by
  obtain ⟨above, below, step⟩ := has
  rw [CaseRun.alphabetic, Bool.or_eq_true] at letters
  rcases letters with interval | each
  · exact CodeRange.cover_of_holdInterval interval above below
  · have one := List.all_eq_true.mp each code (List.mem_range'_1.mpr ⟨above, by omega⟩)
    simpa [step] using one

/-- A character that is no letter stays as it is. -/
theorem isLowercase_of_not_alphabetic {char : Char} (other : isAlphabetic char = false) :
    IsLowercase char := by
  apply isLowercase_of_lowered
  · apply CaseRun.lowered_of_not_has
    intro run listed has
    have letters := List.all_eq_true.mp alphabetic_lowercaseRuns run listed
    rw [isAlphabetic, CaseRun.alphabetic_of_has letters has] at other
    cases other
  · rintro rfl
    exact absurd other (by decide +kernel)

/-- A last character that is no letter is the last one of the lowercase form. -/
theorem getLast?_lowercaseWithin {chars : List Char}
    (other : ∀ char, chars.getLast? = some char → isAlphabetic char = false)
    (before after : List Char) :
    (lowercaseWithin before chars after).getLast? = chars.getLast? := by
  rcases List.eq_nil_or_concat chars with rfl | ⟨front, char, rfl⟩
  · rfl
  · rw [List.concat_eq_append] at *
    have lower := isLowercase_of_not_alphabetic (other char List.getLast?_concat)
    rw [lowercaseWithin_append, lowercaseWithin, if_neg lower.ne_sigma, lower.fixed,
      lowercaseWithin, List.append_nil, List.getLast?_concat, List.getLast?_concat]

/-- A first character that is no letter is the first one of the lowercase form. -/
theorem head?_lowercaseWithin {chars : List Char}
    (other : ∀ char, chars.head? = some char → isAlphabetic char = false)
    (before after : List Char) :
    (lowercaseWithin before chars after).head? = chars.head? := by
  cases chars with
  | nil => rfl
  | cons char chars =>
    have lower := isLowercase_of_not_alphabetic (other char rfl)
    rw [lowercaseWithin, if_neg lower.ne_sigma, lower.fixed]
    rfl

/-- The lowercase letters of the table begin with the letter a. -/
theorem lower_lowercaseRuns_ge : ∀ run ∈ lowercaseRuns, 'a'.toNat ≤ run.lower := by decide +kernel

/-- A lowercase form before the letter a is the character itself. -/
theorem eq_of_mem_lowercaseChar {char lower : Char} (member : lower ∈ lowercaseChar char)
    (low : lower.toNat < 'a'.toNat) : lower = char := by
  unfold lowercaseChar at member
  by_cases dotted : char = '\u0130'
  · rw [if_pos dotted, List.mem_cons, List.mem_singleton] at member
    rcases member with rfl | rfl <;> exact absurd low (by decide)
  rw [if_neg dotted] at member
  obtain rfl := List.mem_singleton.mp member
  rcases CaseRun.lowered_cases lowercaseRuns char.toNat with same | ⟨run, listed, has, found⟩
  · rw [same, Char.ofNat_toNat]
  · have letter := lower_lowercaseRuns_ge run listed
    rw [found, Char.ofNat, dif_pos (CaseRun.isValidChar_of_has listed has)] at low
    exact absurd low (Nat.not_lt_of_le (Nat.le_add_right_of_le letter))

/-- A character before the letter a stands in a text when it does in the lowercase form. -/
theorem mem_of_mem_lowercaseChars {chars : List Char} {lower : Char}
    (member : lower ∈ lowercaseChars chars) (low : lower.toNat < 'a'.toNat) : lower ∈ chars := by
  suffices behind : ∀ before, lower ∈ lowercaseAfter before chars → lower ∈ chars from
    behind [] member
  clear member
  induction chars with
  | nil => exact fun _ member => member
  | cons char chars ih =>
    intro before member
    rw [lowercaseAfter, List.mem_append] at member
    rcases member with here | later
    · by_cases sigma : char = 'Σ'
      · rw [if_pos sigma, List.mem_singleton, lowercaseSigma] at here
        split at here <;> subst here <;> exact absurd low (by decide)
      · rw [if_neg sigma] at here
        exact eq_of_mem_lowercaseChar here low ▸ List.mem_cons_self
    · exact List.mem_cons_of_mem char (ih (char :: before) later)

end ShapeScene.Text
