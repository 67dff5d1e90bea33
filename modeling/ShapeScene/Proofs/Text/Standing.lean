import ShapeScene.Proofs.Text.Lowercase
import ShapeScene.Proofs.Text.Replacement

/-!
# Words that stand alone

A word stands alone in a text where neither a letter nor a number is next to it. The search for such
a word passes occurrences from the left without overlap, so it can only miss an occurrence that
begins inside of another one. There the character in front is one of the word itself: a word is
missed in some text exactly when it begins again behind a character that is neither a letter nor a
number, and a word of letters and numbers is missed in none.
-/

namespace ShapeScene.Text

/-- A word stands somewhere in a text with no letter and no number next to it. -/
def StandsAlone (word chars : List Char) : Prop :=
  ∃ before after, chars = before ++ (word ++ after) ∧ endsWord before.getLast? = true ∧
    endsWord after.head? = true

/-- The search for a word anywhere finds it exactly when it is a part of the text. -/
theorem occursIn_iff_infix {word chars : List Char} :
    occursIn word chars = true ↔ word <:+: chars := by
  induction chars with
  | nil => rw [occursIn, List.isEmpty_iff, List.infix_nil]
  | cons char rest ih =>
    rw [occursIn, Bool.or_eq_true, List.isPrefixOf_iff_prefix, ih, List.infix_cons_iff]

/-- White space is neither a letter nor a number. -/
theorem isAlphanumeric_of_isBlank {char : Char} (blank : isBlank char = true) :
    isAlphanumeric char = false :=
  of_isBlank (isAlphanumeric · = false) (by decide +kernel) blank

/-- A word can begin behind white space. -/
theorem endsWord_getLast?_of_allBlank {blanks : List Char} (blank : AllBlank blanks) :
    endsWord blanks.getLast? = true := by
  cases last : blanks.getLast? with
  | none => rfl
  | some char =>
    have white := isAlphanumeric_of_isBlank (blank char (List.mem_of_getLast? last))
    rw [endsWord, white, Bool.not_false]

/-- A word can end before white space. -/
theorem endsWord_head?_of_allBlank {blanks : List Char} (blank : AllBlank blanks) :
    endsWord blanks.head? = true := by
  cases first : blanks.head? with
  | none => rfl
  | some char =>
    have white := isAlphanumeric_of_isBlank (blank char (List.mem_of_head? first))
    rw [endsWord, white, Bool.not_false]

/-- Of the text before a word counts the last part that is not empty. -/
theorem endsWord_getLast?_append {chars : List Char} (before : List Char) (some : chars ≠ []) :
    endsWord (before ++ chars).getLast? = endsWord chars.getLast? := by
  rw [List.getLast?_append, List.getLast?_eq_some_getLast some]
  rfl

/-- Of the text behind a word counts the first part that is not empty. -/
theorem endsWord_head?_append {chars : List Char} (some : chars ≠ []) (after : List Char) :
    endsWord (chars ++ after).head? = endsWord chars.head? := by
  rw [List.head?_append, List.head?_eq_some_head some]
  rfl

/-- With less text before it a word can still begin. -/
theorem endsWord_getLast?_of_suffix {near far : List Char} (part : near <:+ far)
    (begins : endsWord far.getLast? = true) : endsWord near.getLast? = true := by
  obtain ⟨before, rfl⟩ := part
  by_cases empty : near = []
  · rw [empty]
    rfl
  · rwa [endsWord_getLast?_append before empty] at begins

/-- With less text behind it a word can still end. -/
theorem endsWord_head?_of_prefix {near far : List Char} (part : near <+: far)
    (ends : endsWord far.head? = true) : endsWord near.head? = true := by
  obtain ⟨after, rfl⟩ := part
  by_cases empty : near = []
  · rw [empty]
    rfl
  · rwa [endsWord_head?_append empty] at ends

/-- Whether a word begins again inside of itself, behind a character that is neither a letter nor a
number, so that two occurrences overlap there. -/
def BeginsAgain (word : List Char) : Prop :=
  ∃ front back, word = front ++ back ∧ front ≠ [] ∧ back ≠ [] ∧ back <+: word ∧
    endsWord front.getLast? = true

variable {word : List Char}

/-- A word of letters and numbers begins nowhere behind another character. -/
theorem not_beginsAgain_of_letters (letters : ∀ char ∈ word, isAlphanumeric char = true) :
    ¬BeginsAgain word := by
  rintro ⟨front, back, rfl, some, -, -, begins⟩
  have last := letters (front.getLast some) (List.mem_append_left back (List.getLast_mem some))
  rw [List.getLast?_eq_some_getLast some, endsWord, last] at begins
  cases begins

/-- A word stands alone in a text that has some other text before it. -/
def StandsAloneBehind (before word chars : List Char) : Prop :=
  ∃ left after, chars = left ++ (word ++ after) ∧ endsWord (before ++ left).getLast? = true ∧
    endsWord after.head? = true

namespace StandsAloneBehind

/-- There is no word in an empty text. -/
theorem not_nil (some : word ≠ []) (before : List Char) : ¬ StandsAloneBehind before word [] := by
  rintro ⟨left, after, split, -⟩
  have parts := List.append_eq_nil_iff.mp split.symm
  exact some (List.append_eq_nil_iff.mp parts.2).1

/-- A word stands at the front of a text or behind its first character. -/
theorem cons_iff (before : List Char) (char : Char) (rest : List Char) :
    StandsAloneBehind before word (char :: rest) ↔
      (∃ after, char :: rest = word ++ after ∧ endsWord before.getLast? = true ∧
        endsWord after.head? = true) ∨ StandsAloneBehind (before ++ [char]) word rest := by
  constructor
  · rintro ⟨left, after, split, begins, ends⟩
    cases left with
    | nil =>
      rw [List.append_nil] at begins
      exact .inl ⟨after, split, begins, ends⟩
    | cons first left =>
      obtain ⟨rfl, later⟩ := List.cons.inj split
      refine .inr ⟨left, after, later, ?_, ends⟩
      rwa [List.append_assoc]
  · rintro (⟨after, split, begins, ends⟩ | ⟨left, after, rfl, begins, ends⟩)
    · refine ⟨[], after, split, ?_, ends⟩
      rwa [List.append_nil]
    · refine ⟨char :: left, after, rfl, ?_, ends⟩
      rwa [List.append_assoc] at begins

/-- A word that stands alone in the rest of a text does so in the text. -/
theorem of_append {before front rest : List Char}
    (behind : StandsAloneBehind (before ++ front) word rest) :
    StandsAloneBehind before word (front ++ rest) := by
  obtain ⟨left, after, rfl, begins, ends⟩ := behind
  refine ⟨front ++ left, after, by simp only [List.append_assoc], ?_, ends⟩
  rwa [List.append_assoc] at begins

/-- A word that begins at the front of a text and not again in itself stands alone there or behind
that occurrence. -/
theorem append_word_iff (once : ¬BeginsAgain word) (before rest : List Char) :
    StandsAloneBehind before word (word ++ rest) ↔
      (endsWord before.getLast? = true ∧ endsWord rest.head? = true) ∨
        StandsAloneBehind (before ++ word) word rest := by
  constructor
  · rintro ⟨left, after, split, begins, ends⟩
    rcases List.append_eq_append_iff.mp split with ⟨passed, rfl, behind⟩ | ⟨back, whole, behind⟩
    · refine .inr ⟨passed, after, behind, ?_, ends⟩
      rwa [List.append_assoc]
    · by_cases atFront : left = []
      · subst atFront
        obtain rfl : word = back := whole
        rw [List.append_nil] at begins
        exact .inl ⟨begins, List.append_cancel_left behind ▸ ends⟩
      by_cases atEnd : back = []
      · subst atEnd
        rw [List.append_nil] at whole
        subst whole
        refine .inr ⟨[], after, behind.symm, ?_, ends⟩
        rwa [List.append_nil]
      -- The occurrence begins inside of the one at the front.
      · have short : back.length ≤ word.length := by
          rw [whole, List.length_append]
          exact Nat.le_add_left _ _
        have inside : back <+: word := List.prefix_of_prefix_length_le
          (behind ▸ List.prefix_append back rest) (List.prefix_append word after) short
        rw [endsWord_getLast?_append before atFront] at begins
        exact absurd ⟨left, back, whole, atFront, atEnd, inside, begins⟩ once
  · rintro (⟨begins, ends⟩ | behind)
    · refine ⟨[], rest, rfl, ?_, ends⟩
      rwa [List.append_nil]
    · exact behind.of_append

end StandsAloneBehind

/-- The characters still to pass are passed. -/
theorem standsAloneAfter_skip (word before chars rest : List Char) :
    standsAloneAfter word before.getLast? chars.length (chars ++ rest) =
      standsAloneAfter word (before ++ chars).getLast? 0 rest := by
  induction chars generalizing before with
  | nil => rw [List.append_nil, List.length_nil, List.nil_append]
  | cons char chars ih =>
    have passed := ih (before ++ [char])
    rw [List.getLast?_concat, List.append_assoc] at passed
    exact passed

/-- An occurrence at the front stands alone, or the search goes on behind it. -/
theorem standsAloneAfter_append (some : word ≠ []) (before rest : List Char) :
    standsAloneAfter word before.getLast? 0 (word ++ rest) =
      ((endsWord before.getLast? && endsWord rest.head?) ||
        standsAloneAfter word (before ++ word).getLast? 0 rest) := by
  cases word with
  | nil => exact absurd rfl some
  | cons char others =>
    have begins : (char :: others).isPrefixOf (char :: (others ++ rest)) = true :=
      List.isPrefixOf_iff_prefix.mpr ⟨rest, rfl⟩
    have passed := standsAloneAfter_skip (char :: others) (before ++ [char]) others rest
    rw [List.getLast?_concat, List.append_assoc] at passed
    rw [List.cons_append, standsAloneAfter, if_pos begins, List.length_cons, Nat.add_sub_cancel,
      List.drop_succ_cons, List.drop_left, passed]
    rfl

/-- A character at which no occurrence begins is passed. -/
theorem standsAloneAfter_cons {char : Char} {rest : List Char}
    (otherwise : word.isPrefixOf (char :: rest) = false) (before : List Char) :
    standsAloneAfter word before.getLast? 0 (char :: rest) =
      standsAloneAfter word (before ++ [char]).getLast? 0 rest := by
  rw [standsAloneAfter, if_neg (by simp [otherwise]), List.getLast?_concat]

/-- What the search behind some text finds stands alone there. -/
theorem standsAloneBehind_of_found (some : word ≠ []) {before chars : List Char}
    (found : standsAloneAfter word before.getLast? 0 chars = true) :
    StandsAloneBehind before word chars := by
  induction chars using pattern_induction some generalizing before with
  | nil =>
    rw [standsAloneAfter] at found
    cases found
  | found rest ih =>
    rw [standsAloneAfter_append some, Bool.or_eq_true, Bool.and_eq_true] at found
    rcases found with ⟨begins, ends⟩ | later
    · refine ⟨[], rest, rfl, ?_, ends⟩
      rwa [List.append_nil]
    · exact (ih later).of_append
  | kept char rest otherwise ih =>
    rw [standsAloneAfter_cons otherwise] at found
    exact (StandsAloneBehind.cons_iff before char rest).mpr (.inr (ih found))

/-- The search behind some text finds a word that does not begin again exactly when it stands alone
there. -/
theorem standsAloneAfter_iff (some : word ≠ []) (once : ¬BeginsAgain word)
    (before chars : List Char) :
    standsAloneAfter word before.getLast? 0 chars = true ↔ StandsAloneBehind before word chars := by
  refine ⟨standsAloneBehind_of_found some, fun stands => ?_⟩
  induction chars using pattern_induction some generalizing before with
  | nil => exact absurd stands (StandsAloneBehind.not_nil some before)
  | found rest ih =>
    rw [standsAloneAfter_append some, Bool.or_eq_true, Bool.and_eq_true]
    exact ((StandsAloneBehind.append_word_iff once before rest).mp stands).imp_right (ih _)
  | kept char rest otherwise ih =>
    rw [standsAloneAfter_cons otherwise]
    rcases (StandsAloneBehind.cons_iff before char rest).mp stands with ⟨after, split, -⟩ | behind
    · rw [split, List.isPrefixOf_iff_prefix.mpr (List.prefix_append word after)] at otherwise
      cases otherwise
    · exact ih _ behind

/-- The search in a text begins behind nothing. -/
theorem standsAloneIn_eq (some : word ≠ []) (chars : List Char) :
    standsAloneIn word chars = standsAloneAfter word ([] : List Char).getLast? 0 chars := by
  rw [standsAloneIn, List.isEmpty_eq_false_iff.mpr some, Bool.not_false, Bool.true_and]
  rfl

/-- What the search finds stands alone in the text. -/
theorem standsAlone_of_found (some : word ≠ []) {chars : List Char}
    (found : standsAloneIn word chars = true) : StandsAlone word chars := by
  rw [standsAloneIn_eq some] at found
  exact standsAloneBehind_of_found some found

/-- The search finds a word of letters and numbers exactly when it stands alone in the text. -/
theorem standsAloneIn_iff (some : word ≠ [])
    (letters : ∀ char ∈ word, isAlphanumeric char = true) (chars : List Char) :
    standsAloneIn word chars = true ↔ StandsAlone word chars := by
  rw [standsAloneIn_eq some]
  exact standsAloneAfter_iff some (not_beginsAgain_of_letters letters) [] chars

/-! ## Words that are missed -/

/-- Of two letters one is different from a given character. -/
theorem exists_letter_ne (char : Option Char) : ∃ letter ∈ ['a', 'b'], char ≠ some letter := by
  by_cases first : char = some 'a'
  · refine ⟨'b', by decide, ?_⟩
    rw [first]
    decide
  · exact ⟨'a', by decide, first⟩

/-- A word that begins again is missed where its second occurrence stands alone, but a letter stands
before the first. -/
theorem BeginsAgain.exists_missed (again : BeginsAgain word) :
    ∃ chars, StandsAlone word chars ∧ standsAloneIn word chars = false := by
  obtain ⟨front, back, whole, some, filled, ⟨more, inside⟩, begins⟩ := again
  obtain ⟨letter, listed, other⟩ := exists_letter_ne word.head?
  have isLetter : ∀ letter ∈ ['a', 'b'], isAlphanumeric letter = true :=
    List.all_eq_true.mp (by decide +kernel)
  have nonempty : word ≠ [] := fun empty =>
    some (List.append_eq_nil_iff.mp (whole.symm.trans empty)).1
  refine ⟨letter :: (front ++ word), ⟨letter :: front, [], ?_, ?_, rfl⟩, ?_⟩
  · rw [List.append_nil, List.cons_append]
  · rwa [← List.singleton_append, endsWord_getLast?_append [letter] some]
  -- The search finds the first occurrence, which follows a letter, and goes on behind it.
  have overlap : front ++ word = word ++ more :=
    calc
      front ++ word = front ++ (back ++ more) := by rw [inside]
      _ = word ++ more := by rw [← List.append_assoc, ← whole]
  have late : word.isPrefixOf (letter :: (word ++ more)) = false := by
    refine Bool.eq_false_iff.mpr fun front => other ?_
    obtain ⟨rest, same⟩ := exists_append_of_isPrefixOf front
    have heads := congrArg List.head? same
    rw [List.head?_append, List.head?_eq_some_head nonempty] at heads
    rw [List.head?_eq_some_head nonempty]
    exact heads.symm
  have short : more.length < word.length := by
    have size := congrArg List.length inside
    have filled := List.length_pos_iff.mpr filled
    rw [List.length_append] at size
    omega
  rw [standsAloneIn_eq nonempty, overlap, standsAloneAfter_cons late,
    standsAloneAfter_append nonempty, List.nil_append, List.getLast?_singleton, endsWord,
    isLetter letter listed]
  refine Bool.eq_false_iff.mpr fun found => ?_
  obtain ⟨left, after, split, -⟩ := standsAloneBehind_of_found nonempty found
  rw [split, List.length_append, List.length_append] at short
  omega

/-- The search finds a word wherever it stands alone exactly when the word does not begin again. -/
theorem standsAloneIn_of_standsAlone_iff (some : word ≠ []) :
    (∀ chars, StandsAlone word chars → standsAloneIn word chars = true) ↔ ¬BeginsAgain word := by
  constructor
  · intro finds again
    obtain ⟨chars, stands, missed⟩ := again.exists_missed
    rw [finds chars stands] at missed
    cases missed
  · intro once chars stands
    rw [standsAloneIn_eq some]
    exact (standsAloneAfter_iff some once [] chars).mpr stands

end ShapeScene.Text
