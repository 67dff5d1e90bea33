import ShapeScene.Proofs.Text.Context
import ShapeScene.Proofs.Text.Standing

/-!
# Capital sigmas in their context

The lowercase form of a capital sigma depends on whether a cased character is met before it and
behind it. Within a word the search may end at a character of the word, and then the context makes
no difference; or it may go on beyond the word. A word keeps its lowercase form in every text
exactly when no search that decides goes on, and only such a word is found in the lowercase form of
every text in which it stands.
-/

namespace ShapeScene.Text

/-! ## How far is looked -/

/-- Whether the search for a cased character passes all characters. -/
def isPassed (chars : List Char) : Bool :=
  chars.all fun char => CodeRange.cover caseIgnorableRanges char.toNat

/-- Behind characters that are all passed the search goes on. -/
theorem meetsCased_append_of_isPassed {near : List Char} (passed : isPassed near = true)
    (far : List Char) : meetsCased (near ++ far) = meetsCased far := by
  rw [meetsCased, meetsCased, List.dropWhile_append_of_pos (List.all_eq_true.mp passed)]

/-- At a character that is not passed the search ends. -/
theorem meetsCased_append_of_not_isPassed {near : List Char} (stops : isPassed near = false)
    (far : List Char) : meetsCased (near ++ far) = meetsCased near := by
  induction near with
  | nil => cases stops
  | cons char near ih =>
    unfold meetsCased
    rw [isPassed, List.all_cons] at stops
    rw [List.cons_append, List.dropWhile_cons, List.dropWhile_cons]
    cases passed : CodeRange.cover caseIgnorableRanges char.toNat with
    | true =>
      rw [passed, Bool.true_and] at stops
      exact ih stops
    | false => rfl

/-- Among characters that are all passed no cased one is met. -/
theorem meetsCased_of_isPassed {chars : List Char} (passed : isPassed chars = true) :
    meetsCased chars = false := by
  have ends := meetsCased_append_of_isPassed passed []
  rwa [List.append_nil] at ends

/-- Whether the form of a capital sigma between two pieces of a word depends on what stands around
the word: behind a cased character the search goes on at the end of the word, or it goes on at its
beginning while no cased character follows. -/
def LooksOut (before after : List Char) : Prop :=
  (meetsCased before.reverse = true ∧ isPassed after = true) ∨
    (isPassed before = true ∧ meetsCased after = false)

/-- Whether the capital sigmas of a word have the same form wherever the word stands. -/
def KeepsForm (word : List Char) : Prop :=
  ∀ before after, word = before ++ 'Σ' :: after → ¬LooksOut before after

/-- A word without a capital sigma keeps its form. -/
theorem keepsForm_of_not_mem {word : List Char} (plain : 'Σ' ∉ word) : KeepsForm word := by
  rintro before after rfl
  exact absurd (List.mem_append_right before List.mem_cons_self) plain

/-- A sigma that does not look out has the same form in every context. -/
theorem lowercaseSigma_of_not_looksOut {before after : List Char}
    (inside : ¬LooksOut before after) (left right : List Char) :
    lowercaseSigma (before.reverse ++ left) (after ++ right) =
      lowercaseSigma before.reverse after := by
  rw [LooksOut, not_or, not_and, not_and, Bool.not_eq_true, Bool.not_eq_false] at inside
  obtain ⟨behindCased, atFront⟩ := inside
  unfold lowercaseSigma
  cases front : isPassed before with
  | true =>
    -- A cased character follows in the word, so the form is not final.
    have follows := atFront front
    have stops : isPassed after = false := by
      refine Bool.eq_false_iff.mpr fun passed => ?_
      rw [meetsCased_of_isPassed passed] at follows
      cases follows
    rw [meetsCased_append_of_not_isPassed stops, follows, Bool.not_true, Bool.and_false,
      Bool.and_false]
  | false =>
    have stops : isPassed before.reverse = false := by
      rw [isPassed, List.all_reverse]
      exact front
    rw [meetsCased_append_of_not_isPassed stops]
    cases cased : meetsCased before.reverse with
    | false => rfl
    | true => rw [meetsCased_append_of_not_isPassed (behindCased cased)]

/-! ## A piece in two contexts -/

/-- The lowercase form of a piece has the same length in every context. -/
theorem length_lowercaseWithin (chars before after left right : List Char) :
    (lowercaseWithin before chars after).length = (lowercaseWithin left chars right).length := by
  induction chars generalizing before left with
  | nil => rfl
  | cons char chars ih =>
    rw [lowercaseWithin, lowercaseWithin, List.length_append, List.length_append,
      ih (char :: before) (char :: left)]
    split <;> rfl

/-- A piece has the same lowercase form in two contexts exactly when each of its capital sigmas
has. -/
theorem lowercaseWithin_eq_iff (chars before after left right : List Char) :
    lowercaseWithin before chars after = lowercaseWithin left chars right ↔
      ∀ front back, chars = front ++ 'Σ' :: back →
        lowercaseSigma (front.reverse ++ before) (back ++ after) =
          lowercaseSigma (front.reverse ++ left) (back ++ right) := by
  induction chars generalizing before left with
  | nil => exact iff_of_true rfl fun front back split => by cases front <;> cases split
  | cons char chars ih =>
    have sizes : (lowercaseWithin (char :: before) chars after).length =
        (lowercaseWithin (char :: left) chars right).length := length_lowercaseWithin ..
    rw [lowercaseWithin, lowercaseWithin]
    constructor
    · intro equal
      obtain ⟨here, later⟩ := List.append_inj' equal sizes
      rintro (_ | ⟨first, front⟩) back split <;> obtain ⟨rfl, rfl⟩ := List.cons.inj split
      · simpa using here
      · simpa using (ih _ _).mp later front back rfl
    · intro same
      have later : lowercaseWithin (char :: before) chars after =
          lowercaseWithin (char :: left) chars right := by
        refine (ih _ _).mpr ?_
        rintro front back rfl
        simpa using same (char :: front) back rfl
      rw [later]
      by_cases sigma : char = 'Σ'
      · subst sigma
        have here := same [] chars rfl
        rw [List.reverse_nil, List.nil_append, List.nil_append] at here
        rw [if_pos rfl, if_pos rfl, here]
      · rw [if_neg sigma, if_neg sigma]

/-! ## Words found in larger texts -/

variable {word : List Char}

/-- The lowercase form of a word that keeps its form stands in that of every text with the word. -/
theorem KeepsForm.infix (keeps : KeepsForm word) {text : List Char} (stands : word <:+: text) :
    lowercaseChars word <:+: lowercaseChars text := by
  obtain ⟨left, right, rfl⟩ := stands
  have same : lowercaseWithin left.reverse word right = lowercaseChars word := by
    rw [lowercaseChars, ← lowercaseWithin_nil, lowercaseWithin_eq_iff]
    intro front back split
    have inside := lowercaseSigma_of_not_looksOut (keeps front back split)
    rw [inside, inside]
  rw [List.append_assoc, lowercaseChars_around, same]
  exact List.infix_append' _ _ _

/-- Another list of the same length does not have a list within it when one more character follows
that is not the last of the list. -/
theorem not_infix_concat {chars others : List Char} {letter : Char}
    (sizes : chars.length = others.length) (different : chars ≠ others)
    (other : chars.getLast? ≠ some letter) : ¬chars <:+: others ++ [letter] := by
  intro inside
  rcases List.infix_concat_iff.mp inside with atEnd | within
  · obtain ⟨front, split⟩ := atEnd
    have last := congrArg List.getLast? split
    have some : chars ≠ [] := fun empty => different <| by
      rw [empty] at sizes ⊢
      exact (List.length_eq_zero_iff.mp sizes.symm).symm
    rw [List.getLast?_append, List.getLast?_concat, List.getLast?_eq_some_getLast some] at last
    rw [List.getLast?_eq_some_getLast some] at other
    exact other last
  · exact different (within.eq_of_length sizes)

/-- Another list of the same length does not have a list within it when one more character stands
before it that is not the first of the list. -/
theorem not_infix_cons {chars others : List Char} {letter : Char}
    (sizes : chars.length = others.length) (different : chars ≠ others)
    (other : chars.head? ≠ some letter) : ¬chars <:+: letter :: others := by
  rw [← List.reverse_infix, List.reverse_cons]
  refine not_infix_concat ?_ (mt List.reverse_inj.mp different) ?_
  · rw [List.length_reverse, List.length_reverse, sizes]
  · rwa [List.getLast?_reverse]

/-- A letter of these is met in a search, and it is in lowercase. -/
theorem letters_met : ∀ letter ∈ ['a', 'b'], meetsCased [letter] = true ∧ IsLowercase letter :=
  List.forall_mem_cons.mpr ⟨by decide +kernel, List.forall_mem_singleton.mpr (by decide +kernel)⟩

/-- A word with a sigma that looks out has another form next to a letter, before it or behind it,
and the form of its own does not stand there. -/
theorem LooksOut.exists_not_infix {before after : List Char} (looksOut : LooksOut before after)
    (split : word = before ++ 'Σ' :: after) :
    ∃ text, word <:+: text ∧ ¬lowercaseChars word <:+: lowercaseChars text := by
  rcases looksOut with ⟨cased, passed⟩ | ⟨passed, caseless⟩
  · obtain ⟨letter, listed, other⟩ := exists_letter_ne (lowercaseChars word).getLast?
    obtain ⟨met, lower⟩ := letters_met letter listed
    refine ⟨word ++ [letter], (List.prefix_append word [letter]).isInfix, ?_⟩
    have form : lowercaseChars (word ++ [letter]) =
        lowercaseWithin [] word [letter] ++ [letter] := by
      rw [lowercaseChars, ← lowercaseWithin_nil, lowercaseWithin_append, lowercaseWithin,
        if_neg lower.ne_sigma, lower.fixed]
      rfl
    rw [form]
    rw [lowercaseChars, ← lowercaseWithin_nil] at other ⊢
    refine not_infix_concat (length_lowercaseWithin ..) (fun same => ?_) other
    have sigma := (lowercaseWithin_eq_iff ..).mp same before after split
    simp only [lowercaseSigma, List.append_nil, cased, meetsCased_of_isPassed passed,
      meetsCased_append_of_isPassed passed, met] at sigma
    revert sigma
    decide
  · obtain ⟨letter, listed, other⟩ := exists_letter_ne (lowercaseChars word).head?
    obtain ⟨met, lower⟩ := letters_met letter listed
    refine ⟨letter :: word, (List.suffix_cons letter word).isInfix, ?_⟩
    have form : lowercaseChars (letter :: word) = letter :: lowercaseWithin [letter] word [] := by
      rw [lowercaseChars, ← lowercaseWithin_nil, lowercaseWithin, if_neg lower.ne_sigma,
        lower.fixed]
      rfl
    have turned : isPassed before.reverse = true := by
      rw [isPassed, List.all_reverse]
      exact passed
    rw [form]
    rw [lowercaseChars, ← lowercaseWithin_nil] at other ⊢
    refine not_infix_cons (length_lowercaseWithin ..) (fun same => ?_) other
    have sigma := (lowercaseWithin_eq_iff ..).mp same before after split
    simp only [lowercaseSigma, List.append_nil, caseless, meetsCased_of_isPassed turned,
      meetsCased_append_of_isPassed turned, met] at sigma
    revert sigma
    decide

/-- The lowercase form of a word stands in that of every text with the word exactly when the word
keeps its form. -/
theorem infix_lowercaseChars_iff :
    (∀ text, word <:+: text → lowercaseChars word <:+: lowercaseChars text) ↔ KeepsForm word := by
  constructor
  · intro stands before after split looksOut
    obtain ⟨text, there, lost⟩ := looksOut.exists_not_infix split
    exact lost (stands text there)
  · exact fun keeps text => keeps.infix

end ShapeScene.Text
