import ShapeScene.Proofs.Description.Stretches

/-!
# Words in phrases

A word of letters does not reach across a place where a word ends. So it stands wholly in a phrase
or wholly in a connector, and a word that is no part of a connector stands in a phrase. There it
stands alone exactly when it does so in the text, since neither the commas and the white space
around a phrase nor the missing neighbours at its ends are letters or numbers.
-/

namespace ShapeScene

namespace Phrase

/-- The words of which the joining words consist. -/
def joiningParts : List (List Char) := [['n', 'e', 'x', 't'], ['t', 'o']] ++ singleWords

/-- A word that can stand in phrases only: it has letters, and no connector contains it. -/
structure IsContent (word : List Char) : Prop where
  /-- It is not empty. -/
  nonempty : word ≠ []
  /-- It has letters only. -/
  letters : word.all Text.isWordChar = true
  /-- It is no part of a joining word. -/
  apart : joiningParts.all (fun joining => !Text.occursIn word joining) = true

instance (word : List Char) : Decidable (IsContent word) :=
  decidable_of_iff (word ≠ [] ∧ word.all Text.isWordChar = true ∧
      joiningParts.all (fun joining => !Text.occursIn word joining) = true)
    ⟨fun ⟨nonempty, letters, apart⟩ => ⟨nonempty, letters, apart⟩,
      fun ⟨nonempty, letters, apart⟩ => ⟨nonempty, letters, apart⟩⟩

namespace IsContent

variable {word : List Char}

/-- It begins with a letter, whatever stands behind it. -/
theorem startsInWord_append (content : IsContent word) (after : List Char) :
    startsInWord (word ++ after) = true := by
  rw [Phrase.startsInWord_append content.nonempty]
  exact startsInWord_of_letters content.letters (List.nil_append word).symm content.nonempty

/-- It ends with a letter, whatever stands before it. -/
theorem endsInWord_append (content : IsContent word) (before : List Char) :
    endsInWord (before ++ word) = true := by
  rw [Phrase.endsInWord_append before content.nonempty]
  exact endsInWord_of_letters content.letters (List.append_nil word).symm content.nonempty

/-- It is no part of the words of which joining words consist. -/
theorem not_infix_of_mem {joining : List Char} (content : IsContent word)
    (listed : joining ∈ joiningParts) : ¬ word <:+: joining := by
  have apart := List.all_eq_true.mp content.apart joining listed
  rw [Bool.not_eq_true'] at apart
  rw [← Text.occursIn_iff_infix, apart]
  exact Bool.false_ne_true

/-- No connector contains it. -/
theorem not_infix_of_stands {before connector after : List Char} (content : IsContent word)
    (stands : Stands before connector after) : ¬ word <:+: connector := by
  intro part
  rcases infix_of_stands content.nonempty content.letters stands part with single | first | second
  · exact content.not_infix_of_mem (List.mem_append_right _ single) part
  · exact content.not_infix_of_mem (by decide) first
  · exact content.not_infix_of_mem (by decide) second

end IsContent

/-! ## From a text to its phrases -/

/-- A word stands in a part, next to as much of the text as belongs to the part. -/
theorem Stretched.exists_part {before text word left after : List Char} {stretches : List Stretch}
    (stretched : Stretched before text stretches) (content : IsContent word)
    (whole : text = left ++ (word ++ after)) :
    ∃ earlier later near far, stretches = earlier ++ .part (near ++ (word ++ far)) :: later ∧
      left = charsOf earlier ++ near ∧ after = far ++ charsOf later := by
  obtain ⟨earlier, stretch, later, near, far, split, inside, begins, ends⟩ :=
    stretched.exists_stretch content.letters whole
  have place := stretched.fits split
  cases stretch with
  | part chars =>
    change chars = near ++ (word ++ far) at inside
    subst inside
    exact ⟨earlier, later, near, far, split, begins, ends⟩
  | connector chars =>
    change chars = near ++ (word ++ far) at inside
    exact absurd (inside ▸ List.infix_append' near word far) (content.not_infix_of_stands place)

/-- A word stands in a part of a cut, next to as much of the text as belongs to the part. -/
theorem Cut.exists_part {before text word left after : List Char} {parts : List (List Char)}
    (cut : Cut before text parts) (content : IsContent word)
    (whole : text = left ++ (word ++ after)) :
    ∃ part ∈ parts, ∃ near far, part = near ++ (word ++ far) ∧ near <:+ left ∧ far <+: after := by
  obtain ⟨stretches, stretched, rfl⟩ := cut.exists_stretched
  obtain ⟨earlier, later, near, far, rfl, rfl, rfl⟩ := stretched.exists_part content whole
  refine ⟨near ++ (word ++ far), ?_, near, far, rfl, List.suffix_append _ _,
    List.prefix_append _ _⟩
  rw [partsOf, List.filterMap_append]
  exact List.mem_append_right _ List.mem_cons_self

/-- Trimming keeps a word, next to as much of the text as is left. -/
theorem IsContent.exists_trimChars {word part left after : List Char} (content : IsContent word)
    (whole : part = left ++ (word ++ after)) :
    ∃ near far, Text.trimChars part = near ++ (word ++ far) ∧ near <:+ left ∧ far <+: after := by
  obtain ⟨front, back, frontBlank, backBlank, split⟩ := Text.exists_trimChars part
  rw [split] at whole
  rcases before_or_behind content.letters (.inl (endsInWord_of_allBlank frontBlank)) whole with
    ⟨rest, blank, -⟩ | ⟨near, passed, there⟩
  · exact absurd (blank ▸ List.infix_append' left word rest)
      (not_infix_of_allBlank content.nonempty content.letters frontBlank)
  rcases before_or_behind content.letters (.inr (startsInWord_of_allBlank backBlank)) there with
    ⟨far, inside, behind⟩ | ⟨rest, -, blank⟩
  · exact ⟨near, far, inside, ⟨front, passed.symm⟩, ⟨back, behind.symm⟩⟩
  · exact absurd (blank ▸ List.infix_append' rest word after)
      (not_infix_of_allBlank content.nonempty content.letters backBlank)

/-- A word of a text stands in one of its phrases, next to as much of the text as belongs to the
phrase. -/
theorem IsContent.exists_phrase {chars word left after : List Char} (content : IsContent word)
    (whole : Text.lowercaseChars chars = left ++ (word ++ after)) :
    ∃ phrase ∈ phrases chars, ∃ near far,
      phrase = near ++ (word ++ far) ∧ near <:+ left ∧ far <+: after := by
  obtain ⟨part, member, inner, outer, here, innerLeft, outerAfter⟩ :=
    (cut_partsAfter [] (Text.lowercaseChars chars)).exists_part content whole
  obtain ⟨near, far, inside, nearInner, farOuter⟩ := content.exists_trimChars here
  refine ⟨Text.trimChars part, mem_phrasesOf.mpr ⟨?_, part, member, rfl⟩, near, far, inside,
    nearInner.trans innerLeft, farOuter.trans outerAfter⟩
  intro empty
  rw [empty] at inside
  have parts := List.append_eq_nil_iff.mp inside.symm
  exact content.nonempty (List.append_eq_nil_iff.mp parts.2).1

/-! ## From a phrase to the text -/

/-- A letter behind a connector has neither a letter nor a number before it. -/
theorem Stands.endsWord_getLast? {before connector after : List Char}
    (stands : Stands before connector after) (letter : startsInWord after = true) :
    Text.endsWord connector.getLast? = true := by
  cases stands with
  | comma => decide +kernel
  | word joins left right =>
    have outside := ((joins.stands_iff _ _).mp (.word joins left right)).2
    rw [letter] at outside
    cases outside

/-- A letter before a connector has neither a letter nor a number behind it. -/
theorem Stands.endsWord_head? {before connector after : List Char}
    (stands : Stands before connector after) (letter : endsInWord before = true) :
    Text.endsWord connector.head? = true := by
  cases stands with
  | comma => decide +kernel
  | word joins left right =>
    have outside := ((joins.stands_iff _ _).mp (.word joins left right)).1
    rw [letter] at outside
    cases outside

/-- What stands around a piece of a text does not go on with the words of the piece. -/
structure Framed (left piece after : List Char) : Prop where
  /-- A letter in front has neither a letter nor a number before it. -/
  front : startsInWord piece = true → Text.endsWord left.getLast? = true
  /-- A letter at the end has neither a letter nor a number behind it. -/
  back : endsInWord piece = true → Text.endsWord after.head? = true

/-- Every part of a cut is framed in the text. -/
theorem Cut.exists_framed {before text : List Char} {parts : List (List Char)}
    (cut : Cut before text parts) {part : List Char} (member : part ∈ parts) :
    ∃ left after, text = left ++ (part ++ after) ∧ Framed left part after := by
  induction cut with
  | last =>
    obtain rfl := List.mem_singleton.mp member
    exact ⟨[], [], (List.append_nil part).symm, fun _ => rfl, fun _ => rfl⟩
  | @connector before text first connector rest parts split clear stands later ih =>
    subst split
    rcases List.mem_cons.mp member with rfl | among
    · refine ⟨[], connector ++ rest, rfl, fun _ => rfl, fun letter => ?_⟩
      rw [Text.endsWord_head?_append stands.ne_nil]
      apply stands.endsWord_head?
      by_cases empty : part = []
      · rw [empty] at letter
        cases letter
      · rwa [endsInWord_append before empty]
    · obtain ⟨left, after, rfl, framed⟩ := ih among
      refine ⟨first ++ (connector ++ left), after, by simp only [List.append_assoc],
        fun letter => ?_, framed.back⟩
      have some : connector ++ left ≠ [] :=
        fun empty => stands.ne_nil (List.append_eq_nil_iff.mp empty).1
      rw [Text.endsWord_getLast?_append first some]
      by_cases empty : left = []
      · subst empty
        rw [List.append_nil]
        apply stands.endsWord_getLast?
        rwa [List.nil_append, startsInWord_append]
        rintro rfl
        cases letter
      · rw [Text.endsWord_getLast?_append connector empty]
        exact framed.front letter

/-- What is left of a framed piece after trimming is framed. -/
theorem Framed.exists_trimChars {left piece after : List Char} (framed : Framed left piece after) :
    ∃ near far, left ++ (piece ++ after) = near ++ (Text.trimChars piece ++ far) ∧
      Framed near (Text.trimChars piece) far := by
  obtain ⟨front, back, frontBlank, backBlank, split⟩ := Text.exists_trimChars piece
  generalize Text.trimChars piece = trimmed at *
  subst split
  refine ⟨left ++ front, back ++ after, by simp only [List.append_assoc], ?_, ?_⟩
  · intro letter
    by_cases empty : front = []
    · subst empty
      rw [List.append_nil]
      apply framed.front
      rwa [List.nil_append, startsInWord_append]
      rintro rfl
      cases letter
    · rw [Text.endsWord_getLast?_append left empty]
      exact Text.endsWord_getLast?_of_allBlank frontBlank
  · intro letter
    by_cases empty : back = []
    · subst empty
      rw [List.nil_append]
      apply framed.back
      rwa [List.append_nil, endsInWord_append]
      rintro rfl
      cases letter
    · rw [Text.endsWord_head?_append empty]
      exact Text.endsWord_head?_of_allBlank backBlank

/-- Every phrase of a text is framed in it. -/
theorem exists_framed_phrase {chars phrase : List Char} (member : phrase ∈ phrases chars) :
    ∃ left after, Text.lowercaseChars chars = left ++ (phrase ++ after) ∧
      Framed left phrase after := by
  obtain ⟨-, part, listed, rfl⟩ := mem_phrasesOf.mp member
  obtain ⟨left, after, whole, framed⟩ :=
    (cut_partsAfter [] (Text.lowercaseChars chars)).exists_framed listed
  rw [whole]
  exact framed.exists_trimChars

/-- A word that stands alone in a framed piece stands alone in the text. -/
theorem Framed.standsAlone {left piece after word : List Char} (framed : Framed left piece after)
    (content : IsContent word) (alone : Text.StandsAlone word piece) :
    Text.StandsAlone word (left ++ (piece ++ after)) := by
  obtain ⟨near, far, rfl, begins, ends⟩ := alone
  refine ⟨left ++ near, far ++ after, by simp only [List.append_assoc], ?_, ?_⟩
  · by_cases empty : near = []
    · subst empty
      rw [List.append_nil]
      exact framed.front (content.startsInWord_append far)
    · rwa [Text.endsWord_getLast?_append left empty]
  · by_cases empty : far = []
    · subst empty
      apply framed.back
      rw [List.append_nil]
      exact content.endsInWord_append near
    · rwa [Text.endsWord_head?_append empty]

/-! ## The same words in both -/

variable {chars word : List Char}

/-- A word stands in a phrase exactly when it stands in the text. -/
theorem IsContent.infix_phrase_iff (content : IsContent word) :
    (∃ phrase ∈ phrases chars, word <:+: phrase) ↔ word <:+: Text.lowercaseChars chars := by
  constructor
  · rintro ⟨phrase, member, part⟩
    obtain ⟨left, after, whole, -⟩ := exists_framed_phrase member
    rw [whole]
    exact part.trans (List.infix_append' left phrase after)
  · rintro ⟨left, after, whole⟩
    rw [List.append_assoc] at whole
    obtain ⟨phrase, member, near, far, here, -⟩ := content.exists_phrase whole.symm
    exact ⟨phrase, member, here ▸ List.infix_append' near word far⟩

/-- A word stands alone in a phrase exactly when it stands alone in the text. -/
theorem IsContent.standsAlone_phrase_iff (content : IsContent word) :
    (∃ phrase ∈ phrases chars, Text.StandsAlone word phrase) ↔
      Text.StandsAlone word (Text.lowercaseChars chars) := by
  constructor
  · rintro ⟨phrase, member, alone⟩
    obtain ⟨left, after, whole, framed⟩ := exists_framed_phrase member
    rw [whole]
    exact framed.standsAlone content alone
  · rintro ⟨left, after, whole, begins, ends⟩
    obtain ⟨phrase, member, near, far, here, nearLeft, farAfter⟩ := content.exists_phrase whole
    exact ⟨phrase, member, near, far, here, Text.endsWord_getLast?_of_suffix nearLeft begins,
      Text.endsWord_head?_of_prefix farAfter ends⟩

end Phrase

end ShapeScene
