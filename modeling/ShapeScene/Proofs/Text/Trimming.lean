import ShapeScene.Text.Search

/-!
# Trimming

Trimming removes white space at both ends and nothing else, and what is left has none there. These
two facts determine it.
-/

namespace ShapeScene.Text

/-- All of a text is white space. -/
def AllBlank (chars : List Char) : Prop := ∀ char ∈ chars, isBlank char = true

/-- A text has no white space at its ends. -/
structure IsTrimmed (chars : List Char) : Prop where
  /-- It does not begin with white space. -/
  first : ∀ char, chars.head? = some char → isBlank char = false
  /-- It does not end with white space. -/
  last : ∀ char, chars.getLast? = some char → isBlank char = false

namespace AllBlank

/-- No text is white space. -/
theorem nil : AllBlank [] := fun _ member => absurd member List.not_mem_nil

/-- A blank is white space. -/
theorem space : AllBlank [' '] := by
  intro char member
  rw [List.mem_singleton.mp member]
  decide

/-- White space behind white space. -/
theorem append {left right : List Char} (first : AllBlank left) (second : AllBlank right) :
    AllBlank (left ++ right) := by
  intro char member
  rcases List.mem_append.mp member with here | there
  · exact first char here
  · exact second char there

/-- White space read backwards. -/
theorem reverse {chars : List Char} (blank : AllBlank chars) : AllBlank chars.reverse :=
  fun char member => blank char (List.mem_reverse.mp member)

end AllBlank

/-- Nothing is left of white space. -/
theorem dropWhile_isBlank_of_allBlank {blanks : List Char} (blank : AllBlank blanks) :
    blanks.dropWhile isBlank = [] := by
  have gone : (blanks ++ []).dropWhile isBlank = [].dropWhile isBlank :=
    List.dropWhile_append_of_pos blank
  rwa [List.append_nil] at gone

/-- White space in front is left out up to a text that begins with none. -/
theorem dropWhile_isBlank_append {blanks chars : List Char} (blank : AllBlank blanks)
    (first : ∀ char, chars.head? = some char → isBlank char = false) :
    (blanks ++ chars).dropWhile isBlank = chars := by
  rw [List.dropWhile_append_of_pos blank]
  cases chars with
  | nil => rfl
  | cons char chars => exact List.dropWhile_cons_of_neg (by rw [first char rfl]; decide)

/-- Trimming finds what stands between white space. -/
theorem trimChars_between {left chars right : List Char} (leftBlank : AllBlank left)
    (trimmed : IsTrimmed chars) (rightBlank : AllBlank right) :
    trimChars (left ++ (chars ++ right)) = chars := by
  unfold trimChars
  by_cases empty : chars = []
  · subst empty
    rw [List.nil_append, dropWhile_isBlank_of_allBlank (leftBlank.append rightBlank)]
    rfl
  · have begun : ∀ char, (chars ++ right).head? = some char → isBlank char = false := by
      intro char head
      rw [List.head?_append, List.head?_eq_some_head empty] at head
      exact trimmed.first char ((List.head?_eq_some_head empty).trans head)
    rw [dropWhile_isBlank_append leftBlank begun, List.reverse_append,
      dropWhile_isBlank_append rightBlank.reverse, List.reverse_reverse]
    intro char head
    rw [List.head?_reverse] at head
    exact trimmed.last char head

/-- White space in front can be split off. -/
theorem exists_blank_append (chars : List Char) :
    ∃ blanks rest, AllBlank blanks ∧ (∀ char, rest.head? = some char → isBlank char = false) ∧
      chars = blanks ++ rest := by
  refine ⟨chars.takeWhile isBlank, chars.dropWhile isBlank, ?_, ?_, ?_⟩
  · exact fun char => List.all_eq_true.mp List.all_takeWhile char
  · intro char head
    have stop := List.head?_dropWhile_not isBlank chars
    rw [head] at stop
    exact stop
  · exact List.takeWhile_append_dropWhile.symm

/-- Every text is a trimmed one between white space. -/
theorem exists_isTrimmed (chars : List Char) :
    ∃ left middle right, AllBlank left ∧ IsTrimmed middle ∧ AllBlank right ∧
      chars = left ++ (middle ++ right) := by
  obtain ⟨left, rest, leftBlank, begun, rfl⟩ := exists_blank_append chars
  obtain ⟨right, middle, rightBlank, ended, backwards⟩ := exists_blank_append rest.reverse
  have split : rest = middle.reverse ++ right.reverse := by
    rw [← List.reverse_append, ← backwards, List.reverse_reverse]
  refine ⟨left, middle.reverse, right.reverse, leftBlank, ⟨?_, ?_⟩, rightBlank.reverse, ?_⟩
  · intro char head
    apply begun char
    rw [split, List.head?_append, head]
    rfl
  · intro char last
    rw [List.getLast?_reverse] at last
    exact ended char last
  · rw [split]

/-- What was trimmed has no white space at its ends. -/
theorem isTrimmed_trimChars (chars : List Char) : IsTrimmed (trimChars chars) := by
  obtain ⟨left, middle, right, leftBlank, trimmed, rightBlank, rfl⟩ := exists_isTrimmed chars
  rwa [trimChars_between leftBlank trimmed rightBlank]

/-- Trimming removes white space only. -/
theorem exists_trimChars (chars : List Char) :
    ∃ left right, AllBlank left ∧ AllBlank right ∧ chars = left ++ (trimChars chars ++ right) := by
  obtain ⟨left, middle, right, leftBlank, trimmed, rightBlank, rfl⟩ := exists_isTrimmed chars
  rw [trimChars_between leftBlank trimmed rightBlank]
  exact ⟨left, right, leftBlank, rightBlank, rfl⟩

/-- A trimmed text stays as it is. -/
theorem trimChars_of_isTrimmed {chars : List Char} (trimmed : IsTrimmed chars) :
    trimChars chars = chars := by
  have same := trimChars_between AllBlank.nil trimmed AllBlank.nil
  rwa [List.nil_append, List.append_nil] at same

/-- White space around a text makes no difference to what is trimmed. -/
theorem trimChars_append_blank {left right : List Char} (leftBlank : AllBlank left)
    (chars : List Char) (rightBlank : AllBlank right) :
    trimChars (left ++ (chars ++ right)) = trimChars chars := by
  obtain ⟨inner, middle, outer, innerBlank, trimmed, outerBlank, rfl⟩ := exists_isTrimmed chars
  have whole := trimChars_between (leftBlank.append innerBlank) trimmed
    (outerBlank.append rightBlank)
  rw [trimChars_between innerBlank trimmed outerBlank]
  simpa only [List.append_assoc] using whole

/-- Trimming twice removes no more than trimming once. -/
theorem trim_trim (text : String) : trim (trim text) = trim text := by
  simp only [trim, String.toList_ofList, trimChars_of_isTrimmed (isTrimmed_trimChars _)]

end ShapeScene.Text
