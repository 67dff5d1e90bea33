import ShapeScene.Proofs.Description.Segments

/-!
# Descriptions joined by a connector

A comma, and a joining word in blanks, part the phrases before them from those behind them: no word,
no connector and no capital sigma looks across. The phrases of both texts follow one another.
-/

namespace ShapeScene

namespace Phrase

/-! ## White space around parts -/

/-- A phrase is found in a part by itself. -/
theorem phrasesOf_cons (part : List Char) (parts : List (List Char)) :
    phrasesOf (part :: parts) = phrasesOf [part] ++ phrasesOf parts := by
  rw [phrasesOf, phrasesOf, phrasesOf, ← List.filter_append, ← List.map_append,
    List.singleton_append]

/-- White space around a part makes no difference to its phrase. -/
theorem phrasesOf_blank_append {left right : List Char} (leftBlank : Text.AllBlank left)
    (part : List Char) (rightBlank : Text.AllBlank right) :
    phrasesOf [left ++ (part ++ right)] = phrasesOf [part] := by
  rw [phrasesOf, phrasesOf, List.map_singleton, List.map_singleton,
    Text.trimChars_append_blank leftBlank part rightBlank]

/-- White space has no phrase. -/
theorem phrasesOf_blank {blanks : List Char} (blank : Text.AllBlank blanks) :
    phrasesOf [blanks] = [] := by
  have same := phrasesOf_blank_append blank [] Text.AllBlank.nil
  rw [List.append_nil, List.append_nil] at same
  exact same

/-- White space before the first part makes no difference. -/
theorem phrasesOf_prefixFirst {blanks : List Char} (blank : Text.AllBlank blanks)
    (parts : List (List Char)) : phrasesOf (prefixFirst blanks parts) = phrasesOf parts := by
  cases parts with
  | nil => exact phrasesOf_blank blank
  | cons part parts =>
    have same := phrasesOf_blank_append blank part Text.AllBlank.nil
    rw [List.append_nil] at same
    rw [prefixFirst, phrasesOf_cons, same, ← phrasesOf_cons]

/-- White space between the parts of two texts belongs to no phrase. -/
theorem phrasesOf_joinParts {blanks : List Char} (blank : Text.AllBlank blanks)
    (parts later : List (List Char)) :
    phrasesOf (joinParts parts (blanks :: later)) = phrasesOf parts ++ phrasesOf later := by
  induction parts with
  | nil => rw [joinParts, phrasesOf_cons, phrasesOf_blank blank]; rfl
  | cons part parts ih =>
    cases parts with
    | nil =>
      have same := phrasesOf_blank_append Text.AllBlank.nil part blank
      rw [List.nil_append] at same
      rw [joinParts, prefixFirst, phrasesOf_cons, same]
    | cons next parts =>
      rw [joinParts, phrasesOf_cons, ih, ← List.append_assoc, ← phrasesOf_cons]

/-! ## Trimming a description -/

/-- The phrases of a text, whether or not it has white space at its ends. -/
def phrases (chars : List Char) : List (List Char) :=
  phrasesOf (partsAfter none 0 (Text.lowercaseChars chars))

/-- White space is a seam. -/
theorem IsSeam.of_allBlank {blanks : List Char} (blank : Text.AllBlank blanks) :
    IsSeam blanks where
  outside := startsInWord_of_allBlank blank
  notSecond := by
    rw [Text.dropWhile_isBlank_of_allBlank blank]
    exact (Option.some_ne_none 't').symm

/-- The phrases found by the search are those of any cut. -/
theorem Cut.phrases_eq {chars : List Char} {parts : List (List Char)}
    (cut : Cut [] (Text.lowercaseChars chars) parts) : phrases chars = phrasesOf parts := by
  rw [phrases, cut.unique]
  rfl

/-- White space around a text makes no difference to its phrases. -/
theorem phrases_append_blank {left right : List Char} (leftBlank : Text.AllBlank left)
    (chars : List Char) (rightBlank : Text.AllBlank right) :
    phrases (left ++ (chars ++ right)) = phrases chars := by
  have inner := cut_partsAfter [] (Text.lowercaseChars chars)
  have behind : Cut ([] ++ Text.lowercaseChars chars) right [right] :=
    .last (Clear.of_blank rightBlank _ [])
  have both := inner.append (IsSeam.of_allBlank rightBlank) behind
  have outside : endsInWord [] = endsInWord ([] ++ left) :=
    (endsInWord_of_allBlank leftBlank).symm
  have whole := (both.congr outside).prefixClear (Clear.of_blank leftBlank [] _)
  rw [← Text.lowercaseChars_append_blank rightBlank,
    ← Text.lowercaseChars_blank_append leftBlank] at whole
  rw [whole.phrases_eq, phrasesOf_prefixFirst leftBlank, phrasesOf_joinParts rightBlank]
  exact List.append_nil _

/-- The phrases of a description. -/
theorem segment_eq_phrases (description : String) :
    segment description = (phrases description.toList).map String.ofList := by
  obtain ⟨left, right, leftBlank, rightBlank, split⟩ := Text.exists_trimChars description.toList
  rw [segment_eq, ← phrases]
  conv => rhs; rw [split, phrases_append_blank leftBlank _ rightBlank]

/-! ## Separators -/

/-- What parts phrases whatever stands around it: a comma, or a joining word in blanks. -/
inductive Separator : List Char → Prop where
  /-- A comma. -/
  | comma : Separator [',']
  /-- A joining word in blanks. -/
  | word {word : List Char} (joins : JoiningWord word) : Separator (' ' :: (word ++ [' ']))

/-- A joining word is in lowercase. -/
theorem JoiningWord.isLowercase {word : List Char} (joins : JoiningWord word) :
    ∀ char ∈ word, Text.IsLowercase char := by
  cases joins with
  | single listed =>
    have letters : ∀ word ∈ singleWords, word.all (decide <| Text.IsLowercase ·) = true := by
      decide +kernel
    intro char member
    exact of_decide_eq_true (List.all_eq_true.mp (letters word listed) char member)
  | nextTo _ blank =>
    have letters : ['n', 'e', 'x', 't', 'o'].all (decide <| Text.IsLowercase ·) = true := by
      decide +kernel
    have lower {char : Char} (member : char ∈ ['n', 'e', 'x', 't', 'o']) : Text.IsLowercase char :=
      of_decide_eq_true (List.all_eq_true.mp letters char member)
    intro char member
    simp only [List.mem_append] at member
    rcases member with (first | space) | second
    · exact lower (List.mem_append_left ['o'] first)
    · have breaks := Text.isCaseBreak_of_isBlank (blank char space)
      exact ⟨breaks.ne_sigma, breaks.fixed⟩
    · exact lower (List.mem_append_right ['n', 'e', 'x'] second)

/-- No joining word begins with the second word of `next to`. -/
theorem JoiningWord.head?_ne {word : List Char} (joins : JoiningWord word) :
    word.head? ≠ some 't' := by
  cases joins with
  | single listed =>
    revert word
    decide
  | nextTo => exact of_decide_eq_true rfl

/-- White space before a connector is a seam when no word goes on there. -/
theorem IsSeam.of_stands {before gap word after : List Char} (blank : Text.AllBlank gap)
    (stands : Stands before word after) (other : word.head? ≠ some 't')
    (outside : startsInWord (gap ++ (word ++ after)) = false) :
    IsSeam (gap ++ (word ++ after)) where
  outside := outside
  notSecond := by
    obtain ⟨char, rest, rfl⟩ := List.exists_cons_of_ne_nil stands.ne_nil
    have black : ∀ first, (char :: rest ++ after).head? = some first →
        Text.isBlank first = false := by
      intro first head
      rw [← Option.some.inj head]
      exact stands.not_blank
    rw [Text.dropWhile_isBlank_append blank black]
    exact other

/-- Two texts with white space, a connector and white space between them are cut apart there. -/
theorem Cut.separated {left right gap word space : List Char} {parts later : List (List Char)}
    (first : Cut [] left parts) (second : Cut [] right later) (gapBlank : Text.AllBlank gap)
    (spaceBlank : Text.AllBlank space) (stands : Stands (left ++ gap) word (space ++ right))
    (outside : endsInWord (left ++ gap ++ word ++ space) = false)
    (isSeam : IsSeam (gap ++ (word ++ (space ++ right)))) :
    Cut [] (left ++ (gap ++ (word ++ (space ++ right))))
      (joinParts parts (gap :: prefixFirst space later)) := by
  have sameEnd : endsInWord [] = endsInWord (left ++ gap ++ word ++ space) := outside.symm
  have behind := second.congr sameEnd
  have spaced := behind.prefixClear (Clear.of_blank spaceBlank _ right)
  have separator := Cut.connector rfl (Clear.of_blank gapBlank left _) stands spaced
  exact first.append isSeam separator

namespace Separator

variable {separator : List Char}

/-- A separator is its own lowercase form and ends the context of a sigma on both sides. -/
theorem lowercaseChars (parts : Separator separator) (left right : List Char) :
    Text.lowercaseChars (left ++ (separator ++ right)) =
      Text.lowercaseChars left ++ (separator ++ Text.lowercaseChars right) := by
  cases parts with
  | comma => exact Text.lowercaseChars_break Text.isCaseBreak_comma left right
  | @word word joins =>
    have blank : Text.IsCaseBreak ' ' := Text.isCaseBreak_of_isBlank (by decide)
    have inner := Text.lowercaseChars_break blank word right
    rw [Text.lowercaseChars_of_isLowercase joins.isLowercase] at inner
    have whole := Text.lowercaseChars_break blank left (word ++ ' ' :: right)
    rw [inner] at whole
    simpa only [List.cons_append, List.append_assoc, List.nil_append] using whole

/-- The phrases of two texts with a separator between them. -/
theorem phrases (parts : Separator separator) (left right : List Char) :
    phrases (left ++ (separator ++ right)) = phrases left ++ phrases right := by
  have first := cut_partsAfter [] (Text.lowercaseChars left)
  have second := cut_partsAfter [] (Text.lowercaseChars right)
  have lowered := parts.lowercaseChars left right
  cases parts with
  | comma =>
    have outside : Text.isWordChar ',' = false := by decide +kernel
    have ends : endsInWord (Text.lowercaseChars left ++ [] ++ [','] ++ []) = false := by
      rw [List.append_nil, endsInWord_append _ (List.cons_ne_nil _ _)]
      exact outside
    have stands : Stands (Text.lowercaseChars left ++ []) [',']
        ([] ++ Text.lowercaseChars right) := .comma _
    have isSeam := IsSeam.of_stands Text.AllBlank.nil stands (by decide) outside
    have whole := first.separated second Text.AllBlank.nil Text.AllBlank.nil stands ends isSeam
    simp only [List.nil_append] at whole
    rw [← lowered] at whole
    rw [whole.phrases_eq, phrasesOf_joinParts Text.AllBlank.nil,
      phrasesOf_prefixFirst Text.AllBlank.nil]
    rfl
  | @word word joins =>
    have blank := Text.AllBlank.space
    have stands : Stands (Text.lowercaseChars left ++ [' ']) word
        ([' '] ++ Text.lowercaseChars right) := by
      apply (joins.stands_iff _ _).mpr
      rw [endsInWord_append _ (List.cons_ne_nil _ _), startsInWord_append (List.cons_ne_nil _ _)]
      exact ⟨endsInWord_of_allBlank blank, startsInWord_of_allBlank blank⟩
    have ends : endsInWord (Text.lowercaseChars left ++ [' '] ++ word ++ [' ']) = false := by
      rw [endsInWord_append _ (List.cons_ne_nil _ _)]
      exact endsInWord_of_allBlank blank
    have isSeam := IsSeam.of_stands blank stands joins.head?_ne
      ((startsInWord_append (List.cons_ne_nil _ _) _).trans (startsInWord_of_allBlank blank))
    have whole := first.separated second blank blank stands ends isSeam
    have same : [' '] ++ (word ++ ([' '] ++ Text.lowercaseChars right)) =
        ' ' :: (word ++ [' ']) ++ Text.lowercaseChars right := by
      simp only [List.cons_append, List.nil_append, List.append_assoc]
    rw [same, ← lowered] at whole
    rw [whole.phrases_eq, phrasesOf_joinParts blank, phrasesOf_prefixFirst blank]
    rfl

end Separator

/-- The separators that are written out. -/
def separators : List String := [",", " and ", " with ", " next to ", " beside "]

/-- All of them separate. -/
theorem separator_of_mem {separator : String} (listed : separator ∈ separators) :
    Separator separator.toList := by
  simp only [separators, List.mem_cons, List.not_mem_nil, or_false] at listed
  rcases listed with rfl | rfl | rfl | rfl | rfl
  · exact .comma
  · exact .word (show JoiningWord ['a', 'n', 'd'] from .single (by decide))
  · exact .word (show JoiningWord ['w', 'i', 't', 'h'] from .single (by decide))
  · exact .word (JoiningWord.nextTo (List.cons_ne_nil _ _) Text.AllBlank.space)
  · exact .word (show JoiningWord ['b', 'e', 's', 'i', 'd', 'e'] from .single (by decide))

/-- The phrases of two descriptions with a separator between them. -/
theorem segment_append {separator : String} (listed : separator ∈ separators)
    (first second : String) :
    segment (first ++ separator ++ second) = segment first ++ segment second := by
  rw [segment_eq_phrases, segment_eq_phrases, segment_eq_phrases, String.toList_append,
    String.toList_append, List.append_assoc, (separator_of_mem listed).phrases, List.map_append]

end Phrase

end ShapeScene
