import ShapeScene.Description.Phrase
import ShapeScene.Proofs.Text.Trimming

/-!
# Connectors in a text

Where a connector stands in a text is said here without a search: it is a comma, or one of the
joining words with word boundaries on both sides. What the search finds at the front of a text is
exactly the connector that stands there.
-/

namespace ShapeScene

namespace Phrase

/-- Whether a word boundary lies between two neighbours, either of which may be missing. -/
def isWordEdge (before after : Option Char) : Bool :=
  before.any Text.isWordChar != after.any Text.isWordChar

/-- The joining words that are single words. -/
def singleWords : List (List Char) :=
  [['a', 'n', 'd'], ['w', 'i', 't', 'h'], ['b', 'e', 's', 'i', 'd', 'e']]

/-- The words that join objects, with any white space inside of `next to`. -/
inductive JoiningWord : List Char → Prop where
  /-- A single word. -/
  | single {word : List Char} (listed : word ∈ singleWords) : JoiningWord word
  /-- The two words of `next to`. -/
  | nextTo {gap : List Char} (some : gap ≠ []) (blank : Text.AllBlank gap) :
      JoiningWord (['n', 'e', 'x', 't'] ++ gap ++ ['t', 'o'])

/-- A connector stands in a text, with what comes before it and what comes after it. -/
inductive Stands (before : List Char) : (word after : List Char) → Prop where
  /-- A comma stands anywhere. -/
  | comma (after : List Char) : Stands before [','] after
  /-- A joining word stands between word boundaries. -/
  | word {word after : List Char} (joins : JoiningWord word)
      (left : isWordEdge before.getLast? word.head? = true)
      (right : isWordEdge word.getLast? after.head? = true) : Stands before word after

/-- Whether a text begins inside of a word, if there is one before it. -/
def startsInWord (chars : List Char) : Bool := chars.head?.any Text.isWordChar

/-- Whether a text ends inside of a word, if there is one behind it. -/
def endsInWord (chars : List Char) : Bool := chars.getLast?.any Text.isWordChar

/-- A text of letters goes on inside of a word wherever it is split. -/
theorem startsInWord_of_letters {chars left right : List Char}
    (letters : chars.all Text.isWordChar = true) (split : chars = left ++ right)
    (more : right ≠ []) : startsInWord right = true := by
  obtain ⟨char, rest, rfl⟩ := List.exists_cons_of_ne_nil more
  apply List.all_eq_true.mp letters char
  rw [split]
  exact List.mem_append_right left List.mem_cons_self

/-- Only the first of two texts counts, unless it is empty. -/
theorem startsInWord_append {chars : List Char} (some : chars ≠ []) (rest : List Char) :
    startsInWord (chars ++ rest) = startsInWord chars := by
  cases chars with
  | nil => exact absurd rfl some
  | cons => rfl

/-- The first word of `next to` has letters only. -/
theorem letters_next : ['n', 'e', 'x', 't'].all Text.isWordChar = true := by decide +kernel

/-- The second word of `next to` has letters only. -/
theorem letters_to : ['t', 'o'].all Text.isWordChar = true := by decide +kernel

/-- The single words have letters only. -/
theorem letters_of_single {word : List Char} (listed : word ∈ singleWords) :
    word.all Text.isWordChar = true := by
  revert word
  decide +kernel

namespace JoiningWord

variable {word : List Char}

/-- A joining word begins with a letter. -/
theorem startsInWord (joins : JoiningWord word) : startsInWord word = true := by
  cases joins with
  | single listed =>
    revert word
    decide +kernel
  | nextTo => exact (by decide +kernel : Text.isWordChar 'n' = true)

/-- A joining word ends with a letter. -/
theorem endsInWord (joins : JoiningWord word) : endsInWord word = true := by
  cases joins with
  | single listed =>
    revert word
    decide +kernel
  | nextTo =>
    rw [Phrase.endsInWord, List.getLast?_append]
    exact (by decide +kernel : Text.isWordChar 'o' = true)

/-- There is no empty joining word. -/
theorem ne_nil (joins : JoiningWord word) : word ≠ [] := by
  rintro rfl
  exact absurd joins.startsInWord Bool.false_ne_true

/-- White space goes on to the second word of `next to`. -/
theorem head?_dropWhile_gap {gap : List Char} (blank : Text.AllBlank gap) :
    ((gap ++ ['t', 'o']).dropWhile Text.isBlank).head? = some 't' := by
  rw [List.dropWhile_append_of_pos blank]
  decide

/-- A joining word goes on with a letter, or with white space before a letter `t`. -/
theorem rest_of_split (joins : JoiningWord word) {left right : List Char}
    (split : word = left ++ right) (more : right ≠ []) :
    Phrase.startsInWord right = true ∨ (right.dropWhile Text.isBlank).head? = some 't' := by
  cases joins with
  | single listed =>
    exact .inl (startsInWord_of_letters (letters_of_single listed) split more)
  | @nextTo gap _ blank =>
    -- The rest begins in the first word, in the white space or in the second word.
    rw [List.append_assoc] at split
    rcases List.append_eq_append_iff.mp split with ⟨passed, -, later⟩ | ⟨first, whole, rfl⟩
    · rcases List.append_eq_append_iff.mp later with ⟨gone, -, second⟩ | ⟨space, rfl, rfl⟩
      · exact .inl (startsInWord_of_letters letters_to second more)
      · exact .inr (head?_dropWhile_gap fun char member =>
          blank char (List.mem_append_right passed member))
    · by_cases empty : first = []
      · rw [empty]
        exact .inr (head?_dropWhile_gap blank)
      · have letter := startsInWord_of_letters letters_next whole empty
        exact .inl ((startsInWord_append empty _).trans letter)

/-- A joining word stands where no word goes on before it or behind it. -/
theorem stands_iff (joins : JoiningWord word) (before after : List Char) :
    Stands before word after ↔
      Phrase.endsInWord before = false ∧ Phrase.startsInWord after = false := by
  have first : word.head?.any Text.isWordChar = true := joins.startsInWord
  have last : word.getLast?.any Text.isWordChar = true := joins.endsInWord
  constructor
  · intro stands
    cases stands with
    | comma => exact absurd first (by decide +kernel)
    | word _ left right =>
      rw [isWordEdge, first, bne_iff_ne, ne_eq, Bool.not_eq_true] at left
      rw [isWordEdge, last, bne_iff_ne, ne_comm, ne_eq, Bool.not_eq_true] at right
      exact ⟨left, right⟩
  · rintro ⟨left, right⟩
    apply Stands.word joins
    · rw [isWordEdge, first, bne_iff_ne, ne_eq, Bool.not_eq_true]
      exact left
    · rw [isWordEdge, last, bne_iff_ne, ne_comm, ne_eq, Bool.not_eq_true]
      exact right

end JoiningWord

/-- Whether a word can end before a neighbour is whether no word goes on there. -/
theorem atBoundary_eq (next : Option Char) : atBoundary next = !next.any Text.isWordChar := by
  cases next <;> rfl

/-- A word is found at the front exactly when it stands there with no word going on behind it. -/
theorem wordLength?_eq_some_iff {word chars : List Char} {length : Nat} :
    wordLength? word chars = some length ↔
      ∃ rest, chars = word ++ rest ∧ startsInWord rest = false ∧ length = word.length := by
  unfold wordLength?
  simp only [atBoundary_eq, startsInWord]
  constructor
  · intro found
    split at found
    · rename_i both
      simp only [Bool.and_eq_true, List.isPrefixOf_iff_prefix, Bool.not_eq_true'] at both
      obtain ⟨⟨rest, rfl⟩, ends⟩ := both
      rw [List.drop_left] at ends
      exact ⟨rest, rfl, ends, (Option.some.inj found).symm⟩
    · cases found
  · rintro ⟨rest, rfl, ends, rfl⟩
    rw [List.drop_left, ends, if_pos]
    simp only [Bool.not_false, Bool.and_true, List.isPrefixOf_iff_prefix, List.prefix_append]

/-- Behind the first word of `next to`, all white space is passed before the second is looked
for. -/
theorem nextToLength?_append (rest : List Char) :
    nextToLength? (['n', 'e', 'x', 't'] ++ rest) =
      if rest.takeWhile Text.isBlank = [] then none
      else (wordLength? ['t', 'o'] (rest.dropWhile Text.isBlank)).map
        (· + (4 + (rest.takeWhile Text.isBlank).length)) := by
  have passed : rest.drop (rest.takeWhile Text.isBlank).length = rest.dropWhile Text.isBlank := by
    conv => lhs; arg 2; rw [← List.takeWhile_append_dropWhile (p := Text.isBlank) (l := rest)]
    exact List.drop_left
  have first : ['n', 'e', 'x', 't'].isPrefixOf (['n', 'e', 'x', 't'] ++ rest) = true :=
    List.isPrefixOf_iff_prefix.mpr (List.prefix_append _ _)
  have second : (['n', 'e', 'x', 't'] ++ rest).drop 4 = rest := rfl
  simp only [nextToLength?, if_pos first, second, passed, List.isEmpty_iff]

/-- `next to` is found at the front exactly when it stands there, with white space between its words
and no word going on behind it. -/
theorem nextToLength?_eq_some_iff {chars : List Char} {length : Nat} :
    nextToLength? chars = some length ↔
      ∃ gap rest, chars = ['n', 'e', 'x', 't'] ++ gap ++ ['t', 'o'] ++ rest ∧ gap ≠ [] ∧
        Text.AllBlank gap ∧ startsInWord rest = false ∧
        length = (['n', 'e', 'x', 't'] ++ gap ++ ['t', 'o']).length := by
  constructor
  · intro found
    by_cases first : ['n', 'e', 'x', 't'].isPrefixOf chars = true
    · obtain ⟨behind, rfl⟩ := List.isPrefixOf_iff_prefix.mp first
      rw [nextToLength?_append] at found
      by_cases none : behind.takeWhile Text.isBlank = []
      · rw [if_pos none] at found
        cases found
      rw [if_neg none] at found
      obtain ⟨two, second, rfl⟩ := Option.map_eq_some_iff.mp found
      obtain ⟨rest, split, ends, rfl⟩ := wordLength?_eq_some_iff.mp second
      refine ⟨behind.takeWhile Text.isBlank, rest, ?_, none, ?_, ends, ?_⟩
      · rw [List.append_assoc, List.append_assoc, ← split, List.takeWhile_append_dropWhile]
      · exact List.all_eq_true.mp List.all_takeWhile
      · simp only [List.length_append, List.length_cons, List.length_nil]
        omega
    · rw [nextToLength?, if_neg first] at found
      cases found
  · rintro ⟨gap, rest, rfl, some, blank, ends, rfl⟩
    have letter : Text.isBlank 't' = false := by decide
    have taken : (gap ++ (['t', 'o'] ++ rest)).takeWhile Text.isBlank = gap := by
      rw [List.takeWhile_append_of_pos blank, List.cons_append, List.takeWhile_cons, letter]
      exact List.append_nil gap
    have left : (gap ++ (['t', 'o'] ++ rest)).dropWhile Text.isBlank = ['t', 'o'] ++ rest := by
      rw [List.dropWhile_append_of_pos blank, List.cons_append, List.dropWhile_cons, letter]
      rfl
    have second : wordLength? ['t', 'o'] (['t', 'o'] ++ rest) = .some 2 :=
      wordLength?_eq_some_iff.mpr ⟨rest, rfl, ends, rfl⟩
    rw [List.append_assoc, List.append_assoc, nextToLength?_append, taken, left, if_neg some,
      second, Option.map_some]
    simp only [List.length_append, List.length_cons, List.length_nil, Option.some.injEq]
    omega

/-- A joining word is found at the front exactly when one stands there with no word going on behind
it. -/
theorem joiningLength?_eq_some_iff {chars : List Char} {length : Nat} :
    (wordLength? ['a', 'n', 'd'] chars <|> wordLength? ['w', 'i', 't', 'h'] chars <|>
        nextToLength? chars <|> wordLength? ['b', 'e', 's', 'i', 'd', 'e'] chars) = some length ↔
      ∃ word rest, chars = word ++ rest ∧ JoiningWord word ∧ startsInWord rest = false ∧
        length = word.length := by
  constructor
  · intro found
    simp only [Option.orElse_eq_orElse, Option.orElse_eq_or, Option.or_eq_some_iff] at found
    rcases found with here | ⟨-, here | ⟨-, here | ⟨-, here⟩⟩⟩
    case inr.inr.inl =>
      obtain ⟨gap, rest, split, some, blank, ends, size⟩ := nextToLength?_eq_some_iff.mp here
      exact ⟨_, rest, split, .nextTo some blank, ends, size⟩
    all_goals
      obtain ⟨rest, split, ends, size⟩ := wordLength?_eq_some_iff.mp here
      exact ⟨_, rest, split, .single (by decide), ends, size⟩
  · rintro ⟨word, rest, rfl, joins, ends, rfl⟩
    -- The first letter tells the words apart, so all searches before the right one fail.
    cases joins with
    | single listed =>
      have found : wordLength? word (word ++ rest) = some word.length :=
        wordLength?_eq_some_iff.mpr ⟨rest, rfl, ends, rfl⟩
      simp only [singleWords, List.mem_cons, List.not_mem_nil, or_false] at listed
      rcases listed with rfl | rfl | rfl <;> rw [found] <;> rfl
    | nextTo some blank =>
      have found := nextToLength?_eq_some_iff.mpr ⟨_, rest, rfl, some, blank, ends, rfl⟩
      rw [found]
      rfl

/-- A text that begins with no comma begins with a joining word at most. -/
theorem connectorLength?_of_ne_comma (before : Option Char) {chars : List Char}
    (other : chars.head? ≠ some ',') :
    connectorLength? before chars =
      if atBoundary before then
        wordLength? ['a', 'n', 'd'] chars <|> wordLength? ['w', 'i', 't', 'h'] chars <|>
          nextToLength? chars <|> wordLength? ['b', 'e', 's', 'i', 'd', 'e'] chars
      else none := by
  unfold connectorLength?
  split
  · exact absurd rfl other
  · rfl

/-- The search finds a connector at the front of a text exactly when one stands there. -/
theorem connectorLength?_eq_some_iff {before chars : List Char} {length : Nat} :
    connectorLength? before.getLast? chars = some length ↔
      ∃ word rest, chars = word ++ rest ∧ Stands before word rest ∧ length = word.length := by
  constructor
  · intro found
    by_cases comma : chars.head? = some ','
    · obtain ⟨rest, rfl⟩ := List.head?_eq_some_iff.mp comma
      exact ⟨[','], rest, rfl, .comma rest, (Option.some.inj found).symm⟩
    rw [connectorLength?_of_ne_comma _ comma] at found
    by_cases begins : atBoundary before.getLast? = true
    · rw [if_pos begins] at found
      obtain ⟨word, rest, split, joins, ends, size⟩ := joiningLength?_eq_some_iff.mp found
      rw [atBoundary_eq, Bool.not_eq_true'] at begins
      exact ⟨word, rest, split, (joins.stands_iff before rest).mpr ⟨begins, ends⟩, size⟩
    · rw [if_neg begins] at found
      cases found
  · rintro ⟨word, rest, rfl, stands, rfl⟩
    cases stands with
    | comma => rfl
    | word joins left right =>
      obtain ⟨begins, ends⟩ := (joins.stands_iff before rest).mp (.word joins left right)
      have other : (word ++ rest).head? ≠ some ',' := by
        intro comma
        have letter := (startsInWord_append joins.ne_nil rest).trans joins.startsInWord
        rw [startsInWord, comma] at letter
        exact absurd letter (by decide +kernel)
      rw [connectorLength?_of_ne_comma _ other, if_pos]
      · exact joiningLength?_eq_some_iff.mpr ⟨word, rest, rfl, joins, ends, rfl⟩
      · rw [atBoundary_eq, Bool.not_eq_true']
        exact begins

end Phrase

end ShapeScene
