import ShapeScene.Console.Completion
import ShapeScene.Proofs.Text.Utf8

/-!
# What completion offers

The cursor stands behind some characters of a line, and the word to complete is what follows the
last separator among them. What is offered for it is right for every vocabulary: the sorted words
without repetitions are the words of the vocabulary in the order of their bytes. That the word
begins one byte behind the separator is right for commas and for the white space of ASCII; behind
wider white space there is no answer.
-/

namespace ShapeScene.Completion

open Text

/-! ## Cursors -/

/-- The length of characters behind another. -/
@[simp] theorem byteLength_cons (char : Char) (chars : List Char) :
    byteLength (char :: chars) = char.utf8Size + byteLength chars := rfl

/-- Lengths add up. -/
theorem byteLength_append (first second : List Char) :
    byteLength (first ++ second) = byteLength first + byteLength second := by
  induction first with
  | nil => exact (Nat.zero_add _).symm
  | cons char first ih =>
    rw [List.cons_append, byteLength_cons, byteLength_cons, ih, Nat.add_assoc]

/-- Characters read backwards have the same length. -/
theorem byteLength_reverse (chars : List Char) : byteLength chars.reverse = byteLength chars := by
  induction chars with
  | nil => rfl
  | cons char chars ih =>
    rw [List.reverse_cons, byteLength_append, ih, byteLength_cons, byteLength_cons, Nat.add_comm]
    rfl

/-- Only no characters have no length. -/
theorem byteLength_eq_zero {chars : List Char} : byteLength chars = 0 ↔ chars = [] := by
  cases chars with
  | nil => exact iff_of_true rfl rfl
  | cons char chars =>
    have wide := char.utf8Size_pos
    rw [byteLength_cons]
    exact iff_of_false (by omega) (List.cons_ne_nil char chars)

/-- An offset that ends a character gives the characters before it, and only such an offset gives
any. -/
theorem takeBytes?_eq_some_iff {offset : Nat} {chars before : List Char} :
    takeBytes? offset chars = some before ↔
      byteLength before = offset ∧ ∃ after, chars = before ++ after := by
  fun_induction takeBytes? offset chars generalizing before with
  | case1 chars =>
    rw [Option.some.injEq, byteLength_eq_zero]
    constructor
    · rintro rfl
      exact ⟨rfl, chars, rfl⟩
    · rintro ⟨rfl, -⟩
      rfl
  | case2 count =>
    refine iff_of_false (by simp) ?_
    rintro ⟨length, after, joined⟩
    rw [(List.append_eq_nil_iff.mp joined.symm).1] at length
    cases length
  | case3 count char rest fits ih =>
    rw [Option.map_eq_some_iff]
    constructor
    · rintro ⟨others, taken, rfl⟩
      obtain ⟨length, after, rfl⟩ := ih.mp taken
      exact ⟨by rw [byteLength_cons]; omega, after, rfl⟩
    · rintro ⟨length, after, joined⟩
      cases before with
      | nil => cases length
      | cons first before =>
        obtain ⟨rfl, rfl⟩ := List.cons.inj joined
        rw [byteLength_cons] at length
        exact ⟨before, ih.mpr ⟨by omega, after, rfl⟩, rfl⟩
  | case4 count char rest wide =>
    refine iff_of_false (by simp) ?_
    rintro ⟨length, after, joined⟩
    cases before with
    | nil => cases length
    | cons first before =>
      obtain ⟨rfl, rfl⟩ := List.cons.inj joined
      rw [byteLength_cons] at length
      omega

/-! ## The word before the cursor -/

/-- A text ends in a word without separators that begins as early as such a word can. -/
structure EndsInWord (before front word : List Char) : Prop where
  /-- The word is the end of the text. -/
  joined : before = front ++ word
  /-- No separator is in the word. -/
  clear : ∀ char ∈ word, separates char = false
  /-- An end of the text without separators begins here at the earliest. -/
  least : ∀ earlier later, before = earlier ++ later → (∀ char ∈ later, separates char = false) →
    byteLength front ≤ byteLength earlier

/-- What is left when characters are dropped is no longer. -/
theorem byteLength_dropWhile_le (property : Char → Bool) (chars : List Char) :
    byteLength (chars.dropWhile property) ≤ byteLength chars := by
  have parts := congrArg byteLength (@List.takeWhile_append_dropWhile _ property chars)
  rw [byteLength_append] at parts
  omega

/-- The word is what no separator interrupts when the text is read backwards. -/
theorem endsInWord_takeWhile (before : List Char) :
    EndsInWord before (before.reverse.dropWhile fun char => !separates char).reverse
      (before.reverse.takeWhile fun char => !separates char).reverse where
  joined := by
    rw [← List.reverse_append, List.takeWhile_append_dropWhile, List.reverse_reverse]
  clear := by
    intro char member
    have inside := List.all_eq_true.mp List.all_takeWhile char (List.mem_reverse.mp member)
    rwa [Bool.not_eq_true'] at inside
  least := by
    rintro earlier later rfl clear
    have passed : ∀ char ∈ later.reverse, (!separates char) = true := by
      intro char member
      rw [clear char (List.mem_reverse.mp member)]
      rfl
    rw [byteLength_reverse, List.reverse_append, List.dropWhile_append_of_pos passed,
      ← byteLength_reverse earlier]
    exact byteLength_dropWhile_le _ _

/-! ## The words of a vocabulary -/

/-- Every word stays when repetitions are dropped. -/
theorem mem_dropRepeated {words : List String} {word : String} :
    word ∈ dropRepeated words ↔ word ∈ words := by
  fun_induction dropRepeated words with
  | case1 second later ih => simp [ih]
  | case2 first second later _ ih => simp [ih]
  | case3 words => rfl

/-- Sorted words ascend when repetitions are dropped. -/
theorem pairwise_dropRepeated {words : List String} (sorted : words.Pairwise (· ≤ ·)) :
    (dropRepeated words).Pairwise (· < ·) := by
  fun_induction dropRepeated words with
  | case1 second later ih => exact ih sorted.tail
  | case2 first second later different ih =>
    obtain ⟨lowest, others⟩ := List.pairwise_cons.mp sorted
    have below : first < second := String.not_le.mp fun above =>
      different (String.le_antisymm (lowest second List.mem_cons_self) above)
    refine List.pairwise_cons.mpr ⟨fun word member => ?_, ih others⟩
    rcases List.mem_cons.mp (mem_dropRepeated.mp member) with rfl | later
    · exact below
    · have further := (List.pairwise_cons.mp others).1 word later
      exact String.not_le.mp fun above => String.not_lt.mpr (String.le_trans further above) below
  | case3 words short =>
    match words, short with
    | [], _ => exact List.Pairwise.nil
    | [word], _ => exact List.pairwise_singleton _ word
    | first :: second :: later, short => exact absurd rfl (short first second later)

/-- The keywords are the words of the vocabulary. -/
theorem mem_keywords {vocabulary : Vocabulary} {word : String} :
    word ∈ keywords vocabulary ↔ word ∈ vocabulary.words := by
  rw [keywords, mem_dropRepeated, List.mem_mergeSort]

/-- The keywords ascend in the order of their bytes, so that none is there twice. -/
theorem pairwise_keywords (vocabulary : Vocabulary) :
    (keywords vocabulary).Pairwise fun first second => utf8 first < utf8 second := by
  have order (first second : String) :
      (!decide (second < first)) = true ↔ first ≤ second := by
    rw [Bool.not_eq_true', decide_eq_false_iff_not, String.not_lt]
  have sorted : (vocabulary.words.mergeSort fun first second => !decide (second < first)).Pairwise
      fun first second => (!decide (second < first)) = true := by
    refine List.pairwise_mergeSort ?_ ?_ _
    · intro first second third before behind
      rw [order] at before behind ⊢
      exact String.le_trans before behind
    · intro first second
      rw [Bool.or_eq_true, order, order]
      exact String.le_total first second
  have ascending := pairwise_dropRepeated (sorted.imp fun before => (order _ _).mp before)
  exact ascending.imp utf8_lt

/-! ## What is offered -/

/-- What is offered for a word that begins at an offset. -/
structure Offers (vocabulary : Vocabulary) (start : Nat) (word : String) (words : List String) :
    Prop where
  /-- Nothing completes no word. -/
  nothing : word.toList = [] → words = []
  /-- A word that begins a line with a colon is completed to the commands it begins. -/
  commands : start = 0 → word.toList.head? = some ':' →
    words = Command.names.filter fun name => word.toList.isPrefixOf name.toList
  /-- Any other word is completed to exactly the words of the vocabulary that it begins. -/
  keywords : word.toList ≠ [] → ¬(start = 0 ∧ word.toList.head? = some ':') →
    ∀ candidate, candidate ∈ words ↔
      candidate ∈ vocabulary.words ∧ word.toList <+: candidate.toList
  /-- These words ascend in the order of their bytes. -/
  ascending : ¬(start = 0 ∧ word.toList.head? = some ':') →
    words.Pairwise fun first second => utf8 first < utf8 second

/-- A word with characters is not the empty one. -/
theorem isEmpty_eq_false {word : String} (some : word.toList ≠ []) : word.isEmpty = false := by
  rw [Bool.eq_false_iff, Ne, String.isEmpty_iff]
  rintro rfl
  exact some rfl

/-- What is offered is what a word can be completed to. -/
theorem offers_wordsFor (vocabulary : Vocabulary) (start : Nat) (word : String) :
    Offers vocabulary start word (wordsFor vocabulary start word) where
  nothing := by
    intro none
    have empty : word.isEmpty = true := by
      rw [String.isEmpty_iff, ← String.toList_inj, none]
      rfl
    simp [wordsFor, empty]
  commands := by
    intro first colon
    have filled : word.isEmpty = false := isEmpty_eq_false fun none => by
      rw [none] at colon
      cases colon
    simp [wordsFor, first, colon, filled]
  keywords := by
    intro some other candidate
    simp [wordsFor, if_neg other, isEmpty_eq_false some, mem_keywords]
  ascending := by
    intro other
    rw [wordsFor, if_neg other]
    exact (pairwise_keywords vocabulary).filter _

/-- The answer behind some characters of a line, by what is before the word there. -/
theorem candidates?_eq (vocabulary : Vocabulary) (before after : List Char) :
    candidates? vocabulary (String.ofList (before ++ after)) (byteLength before) =
      match before.reverse.dropWhile fun char => !separates char with
      | [] => some ⟨0, wordsFor vocabulary 0 (lowercase (String.ofList
          (before.reverse.takeWhile fun char => !separates char).reverse))⟩
      | char :: earlier =>
        if char.utf8Size = 1 then
          some ⟨byteLength (char :: earlier), wordsFor vocabulary (byteLength (char :: earlier))
            (lowercase (String.ofList
              (before.reverse.takeWhile fun char => !separates char).reverse))⟩
        else none := by
  have taken : takeBytes? (byteLength before) (before ++ after) = some before :=
    takeBytes?_eq_some_iff.mpr ⟨rfl, after, rfl⟩
  rw [candidates?, String.toList_ofList, taken]
  simp only [Option.bind_eq_bind, Option.bind_some]
  cases before.reverse.dropWhile fun char => !separates char <;> rfl

/-- The last character that is passed over is a separator. -/
theorem separates_of_dropWhile {before : List Char} {char : Char} {earlier : List Char}
    (left : (before.reverse.dropWhile fun char => !separates char) = char :: earlier) :
    separates char = true := by
  have first := List.head?_dropWhile_not (fun char => !separates char) before.reverse
  rw [left] at first
  simpa using first

/-- A cursor behind any characters of a line is answered with the place where the word before it
begins and with what completes this word, unless the word is behind white space of more than one
byte; then there is no answer. -/
theorem candidates?_offers_unless_wide (vocabulary : Vocabulary) (before after : List Char) :
    ∃ front word, EndsInWord before front word ∧
      ((∃ char, front.getLast? = some char ∧ isBlank char = true ∧ 1 < char.utf8Size) ∧
          candidates? vocabulary (String.ofList (before ++ after)) (byteLength before) = none ∨
        (∀ char, front.getLast? = some char → char.utf8Size = 1) ∧
          ∃ words, candidates? vocabulary (String.ofList (before ++ after)) (byteLength before) =
              some ⟨byteLength front, words⟩ ∧
            Offers vocabulary (byteLength front) (lowercase (String.ofList word)) words) := by
  refine ⟨_, _, endsInWord_takeWhile before, ?_⟩
  rw [candidates?_eq]
  cases left : before.reverse.dropWhile fun char => !separates char with
  | nil =>
    refine .inr ⟨fun char last => ?_, _, rfl, offers_wordsFor vocabulary _ _⟩
    cases last
  | cons char earlier =>
    rw [List.getLast?_reverse, List.head?_cons, byteLength_reverse]
    by_cases narrow : char.utf8Size = 1
    · refine .inr ⟨fun last same => Option.some.inj same ▸ narrow, _, ?_,
        offers_wordsFor vocabulary _ _⟩
      exact if_pos narrow
    · refine .inl ⟨⟨char, rfl, ?_, ?_⟩, if_neg narrow⟩
      · have separator := separates_of_dropWhile left
        rw [separates, Bool.or_eq_true, beq_iff_eq] at separator
        rcases separator with blank | rfl
        · exact blank
        · exact absurd rfl narrow
      · have wide := char.utf8Size_pos
        omega

/-- An ideographic space is as long as three spaces. -/
example : candidates? .empty "a\u3000sp" 6 = none := by decide +kernel

end ShapeScene.Completion
