import ShapeScene.Text.Search

/-!
# Replacing a pattern in a text

A character that a pattern does not have is a mark: no occurrence of the pattern reaches across it,
so the text before it and the text behind it are replaced by themselves. A replacement that is
longer than its pattern changes a text exactly when the pattern occurs there.
-/

namespace ShapeScene.Text

variable {pattern replacement : List Char}

/-! ## Where a pattern occurs -/

/-- A pattern that begins a text is followed by the rest of it. -/
theorem exists_append_of_isPrefixOf {text : List Char} (begins : pattern.isPrefixOf text = true) :
    ∃ rest, text = pattern ++ rest := by
  obtain ⟨rest, same⟩ := List.isPrefixOf_iff_prefix.mp begins
  exact ⟨rest, same.symm⟩

/-- Whether a pattern begins a text is decided before a mark. -/
theorem isPrefixOf_append_mark {mark : Char} (clear : mark ∉ pattern) (before after : List Char) :
    pattern.isPrefixOf (before ++ mark :: after) = pattern.isPrefixOf before := by
  induction pattern generalizing before with
  | nil => simp
  | cons first others ih =>
    rw [List.mem_cons, not_or] at clear
    cases before with
    | nil => simp [List.isPrefixOf, Ne.symm clear.1]
    | cons char later =>
      rw [List.cons_append, List.isPrefixOf_cons_cons, List.isPrefixOf_cons_cons, ih clear.2]

/-- A text is passed from the left: an occurrence of the pattern at once, any other character by
itself. -/
@[elab_as_elim]
theorem pattern_induction (nonempty : pattern ≠ []) {motive : List Char → Prop} (nil : motive [])
    (found : ∀ rest, motive rest → motive (pattern ++ rest))
    (kept : ∀ char rest, pattern.isPrefixOf (char :: rest) = false → motive rest →
      motive (char :: rest)) (text : List Char) : motive text := by
  -- An occurrence is not empty, so what is behind it is shorter.
  induction size : text.length using Nat.strongRecOn generalizing text with
  | ind count ih =>
    cases text with
    | nil => exact nil
    | cons char later =>
      cases begins : pattern.isPrefixOf (char :: later) with
      | false =>
        apply kept char later begins
        exact ih later.length (by simp [← size]) later rfl
      | true =>
        obtain ⟨rest, same⟩ := exists_append_of_isPrefixOf begins
        have shorter : rest.length < count := by
          have total := congrArg List.length same
          have some := List.length_pos_iff.mpr nonempty
          rw [List.length_append, size] at total
          omega
        rw [same]
        exact found rest (ih rest.length shorter rest rfl)

/-- A pattern occurs where it begins. -/
theorem occursIn_append (nonempty : pattern ≠ []) (rest : List Char) :
    occursIn pattern (pattern ++ rest) = true := by
  cases pattern with
  | nil => exact absurd rfl nonempty
  | cons first others =>
    rw [List.cons_append, occursIn, Bool.or_eq_true]
    exact .inl (List.isPrefixOf_iff_prefix.mpr ⟨rest, rfl⟩)

/-- A character at which the pattern does not begin decides nothing. -/
theorem occursIn_cons {char : Char} {rest : List Char}
    (otherwise : pattern.isPrefixOf (char :: rest) = false) :
    occursIn pattern (char :: rest) = occursIn pattern rest := by
  rw [occursIn, otherwise, Bool.false_or]

/-- Characters without the first one of the pattern decide nothing. -/
theorem occursIn_append_of_not_mem {first : Char} {others front : List Char}
    (clear : first ∉ front) (rest : List Char) :
    occursIn (first :: others) (front ++ rest) = occursIn (first :: others) rest := by
  induction front with
  | nil => rfl
  | cons char later ih =>
    rw [List.mem_cons, not_or] at clear
    rw [List.cons_append, occursIn_cons (by simp [List.isPrefixOf, clear.1]), ih clear.2]

/-! ## Replacing -/

/-- The characters still to drop are dropped. -/
theorem replaceAfter_eq_drop (skip : Nat) (text : List Char) :
    replaceAfter pattern replacement skip text =
      replaceAfter pattern replacement 0 (text.drop skip) := by
  induction text generalizing skip with
  | nil => simp [replaceAfter]
  | cons char rest ih =>
    cases skip with
    | zero => rfl
    | succ skip => rw [replaceAfter, ih, List.drop_succ_cons]

/-- An occurrence at the front is replaced. -/
theorem replaceAfter_append_pattern (nonempty : pattern ≠ []) (rest : List Char) :
    replaceAfter pattern replacement 0 (pattern ++ rest) =
      replacement ++ replaceAfter pattern replacement 0 rest := by
  cases pattern with
  | nil => exact absurd rfl nonempty
  | cons first others =>
    have begins : (first :: others).isPrefixOf (first :: (others ++ rest)) = true :=
      List.isPrefixOf_iff_prefix.mpr ⟨rest, rfl⟩
    rw [List.cons_append, replaceAfter, if_pos begins, replaceAfter_eq_drop, List.length_cons,
      Nat.add_sub_cancel, List.drop_left]

/-- A character at which the pattern does not begin is kept. -/
theorem replaceAfter_cons {char : Char} {rest : List Char}
    (otherwise : pattern.isPrefixOf (char :: rest) = false) :
    replaceAfter pattern replacement 0 (char :: rest) =
      char :: replaceAfter pattern replacement 0 rest := by
  rw [replaceAfter, if_neg (by simp [otherwise])]

/-- The texts before and behind a mark are replaced by themselves. -/
theorem replaceAfter_append_mark (nonempty : pattern ≠ []) {mark : Char} (clear : mark ∉ pattern)
    (before after : List Char) :
    replaceAfter pattern replacement 0 (before ++ mark :: after) =
      replaceAfter pattern replacement 0 before ++
        replaceAfter pattern replacement 0 (mark :: after) := by
  induction before using pattern_induction nonempty with
  | nil => rfl
  | found rest ih =>
    rw [List.append_assoc, replaceAfter_append_pattern nonempty, ih,
      replaceAfter_append_pattern nonempty, List.append_assoc]
  | kept char rest otherwise ih =>
    have still := isPrefixOf_append_mark clear (char :: rest) after
    rw [otherwise, List.cons_append] at still
    rw [List.cons_append, replaceAfter_cons still, ih, replaceAfter_cons otherwise,
      List.cons_append]

/-- A text without the pattern stays as it is. -/
theorem replaceAfter_of_not_occursIn (nonempty : pattern ≠ []) {text : List Char}
    (absent : occursIn pattern text = false) :
    replaceAfter pattern replacement 0 text = text := by
  induction text using pattern_induction nonempty with
  | nil => rfl
  | found rest ih =>
    rw [occursIn_append nonempty] at absent
    cases absent
  | kept char rest otherwise ih =>
    rw [occursIn_cons otherwise] at absent
    rw [replaceAfter_cons otherwise, ih absent]

/-- A replacement that is not shorter does not make a text shorter. -/
theorem length_le_length_replaceAfter (nonempty : pattern ≠ [])
    (wide : pattern.length ≤ replacement.length) (text : List Char) :
    text.length ≤ (replaceAfter pattern replacement 0 text).length := by
  induction text using pattern_induction nonempty with
  | nil => exact Nat.zero_le _
  | found rest ih =>
    rw [replaceAfter_append_pattern nonempty, List.length_append, List.length_append]
    omega
  | kept char rest otherwise ih =>
    rw [replaceAfter_cons otherwise, List.length_cons, List.length_cons]
    omega

/-- A longer replacement makes a text with the pattern longer. -/
theorem length_lt_length_replaceAfter (nonempty : pattern ≠ [])
    (wider : pattern.length < replacement.length) {text : List Char}
    (present : occursIn pattern text = true) :
    text.length < (replaceAfter pattern replacement 0 text).length := by
  induction text using pattern_induction nonempty with
  | nil =>
    cases pattern with
    | nil => exact absurd rfl nonempty
    | cons first others => cases present
  | found rest _ =>
    have others := length_le_length_replaceAfter nonempty (Nat.le_of_lt wider) rest
    rw [replaceAfter_append_pattern nonempty, List.length_append, List.length_append]
    omega
  | kept char rest otherwise ih =>
    rw [occursIn_cons otherwise] at present
    have later := ih present
    rw [replaceAfter_cons otherwise, List.length_cons, List.length_cons]
    omega

end ShapeScene.Text
