import ShapeScene.Proofs.Description.Keywords

/-!
# English text in the standard vocabulary

French keywords stand behind the English ones in every table and count only where they stand alone.
A text in which none of them stands alone is therefore read as with the English tables: no cut at a
connector and no trimming makes a French word stand alone that did not do so in the text.
-/

namespace ShapeScene

namespace Vocabulary

variable {Kind : Type}

/-- None of the keywords of a vocabulary is found in a text. -/
structure Silent (vocabulary : Vocabulary) (text : String) : Prop where
  /-- No shape is named. -/
  shapes : ∀ keyword ∈ vocabulary.shapes, keyword.foundIn text = false
  /-- No color is named. -/
  colors : ∀ keyword ∈ vocabulary.colors, keyword.foundIn text = false
  /-- No animation is named. -/
  animations : ∀ keyword ∈ vocabulary.animations, keyword.foundIn text = false
  /-- No material is named. -/
  materials : ∀ keyword ∈ vocabulary.materials, keyword.foundIn text = false

/-- Keywords behind a table make no difference when none of them is found. -/
theorem firstFound?_append {second : List (Keyword Kind)} {text : String}
    (silent : ∀ keyword ∈ second, keyword.foundIn (Text.lowercase text) = false)
    (first : List (Keyword Kind)) :
    firstFound? (first ++ second) text = firstFound? first text := by
  have nothing : second.find? (·.foundIn (Text.lowercase text)) = none := by
    rw [List.find?_eq_none]
    intro keyword member
    rw [silent keyword member]
    exact Bool.false_ne_true
  simp only [firstFound?, List.find?_append, nothing, Option.or_none]

/-- Words for materials make no difference when none of them is found. -/
theorem materialIn?_append {second : Vocabulary} {text : String}
    (silent : ∀ keyword ∈ second.materials, keyword.foundIn (Text.lowercase text) = false)
    (first : Vocabulary) : (first.append second).materialIn? text = first.materialIn? text := by
  have nothing (kind : MaterialKind) :
      (second.materials.any fun keyword =>
        keyword.kind == kind && keyword.foundIn (Text.lowercase text)) = false := by
    rw [List.any_eq_false]
    intro keyword member
    rw [silent keyword member, Bool.and_false]
    exact Bool.false_ne_true
  simp only [materialIn?, append, List.any_append, nothing, Bool.or_false]

/-- A phrase is read as without the keywords of a vocabulary that is silent on it. -/
theorem entityOf?_append {second : Vocabulary} {phrase : String}
    (silent : second.Silent (Text.lowercase (Text.lowercase (Text.trim phrase))))
    (first : Vocabulary) : (first.append second).entityOf? phrase = first.entityOf? phrase := by
  have shapes := firstFound?_append silent.shapes first.shapes
  have colors := firstFound?_append silent.colors first.colors
  have animations := firstFound?_append silent.animations first.animations
  have materials := materialIn?_append silent.materials first
  simp only [entityOf?, shapeIn?, colorIn?, animationIn?, materials]
  simp only [append, shapes, colors, animations]

/-- Vocabularies by which all phrases are read alike give them the same outcomes. -/
theorem outcomesFrom_congr {first second : Vocabulary} {phrases : List String}
    (alike : ∀ phrase ∈ phrases, first.entityOf? phrase = second.entityOf? phrase) (row : Row) :
    first.outcomesFrom row phrases = second.outcomesFrom row phrases := by
  induction phrases generalizing row with
  | nil => rfl
  | cons phrase later ih =>
    have here := alike phrase List.mem_cons_self
    have behind := ih fun other member => alike other (List.mem_cons_of_mem phrase member)
    simp only [outcomesFrom, here, behind]

/-- A French keyword is not found in a phrase when it does not stand alone in the description. -/
theorem foundIn_eq_false {keyword : Keyword Kind} {description phrase : String}
    (mode : keyword.mode = .wholeWord) (listed : keyword.word ∈ french.words)
    (absent : ∀ word ∈ french.words,
      ¬ Text.StandsAlone word.toList (Text.lowercaseChars description.toList))
    (member : phrase ∈ Phrase.segment description) : keyword.foundIn phrase = false := by
  have plain := isPlainWord_french keyword.word listed
  have occurs := Keyword.foundIn_segment_iff plain description
  rw [← Bool.not_eq_true]
  intro found
  have alone := occurs.mp ⟨phrase, member, found⟩
  rw [Keyword.OccursIn, mode] at alone
  exact absent keyword.word listed alone

/-- The French keywords are silent on a phrase when none of them stands alone in the description. -/
theorem french_silent {description phrase : String}
    (absent : ∀ word ∈ french.words,
      ¬ Text.StandsAlone word.toList (Text.lowercaseChars description.toList))
    (member : phrase ∈ Phrase.segment description) : french.Silent phrase where
  shapes keyword inTable :=
    foundIn_eq_false (Keyword.mode_of_mem_ofTable inTable)
      (mem_words.mpr (.inl ⟨keyword, inTable, rfl⟩)) absent member
  colors keyword inTable :=
    foundIn_eq_false (Keyword.mode_of_mem_ofTable inTable)
      (mem_words.mpr (.inr (.inl ⟨keyword, inTable, rfl⟩))) absent member
  animations keyword inTable :=
    foundIn_eq_false (Keyword.mode_of_mem_ofTable inTable)
      (mem_words.mpr (.inr (.inr (.inl ⟨keyword, inTable, rfl⟩)))) absent member
  materials keyword inTable :=
    foundIn_eq_false (Keyword.mode_of_mem_ofTable inTable)
      (mem_words.mpr (.inr (.inr (.inr ⟨keyword, inTable, rfl⟩)))) absent member

/-- A description in which no French keyword stands alone is read by the standard vocabulary as by
the English one. -/
theorem explain_standard_eq_english (description : String)
    (absent : ∀ word ∈ french.words,
      ¬ Text.StandsAlone word.toList (Text.lowercaseChars description.toList)) :
    standard.explain description = english.explain description := by
  apply outcomesFrom_congr
  intro phrase member
  apply entityOf?_append
  rw [Phrase.trim_of_mem_segment member, Phrase.lowercase_of_mem_segment member,
    Phrase.lowercase_of_mem_segment member]
  exact french_silent absent member

/-- A description in which French keywords stand in longer words only. -/
def rosyDescription : String := "A rosette, TORES and a métallisé cube with matériel²mat"

/-- French keywords inside of longer words make no difference. -/
theorem explain_rosyDescription :
    (∀ word ∈ french.words,
      ¬ Text.StandsAlone word.toList (Text.lowercaseChars rosyDescription.toList)) ∧
    standard.explain rosyDescription = english.explain rosyDescription := by
  have absent : ∀ word ∈ french.words,
      ¬ Text.StandsAlone word.toList (Text.lowercaseChars rosyDescription.toList) := by
    intro word listed
    have plain := isPlainWord_french word listed
    rw [← Text.standsAloneIn_iff plain.content.nonempty (List.all_eq_true.mp plain.alphanumeric)]
    revert word
    decide +kernel
  exact ⟨absent, explain_standard_eq_english rosyDescription absent⟩

end Vocabulary

end ShapeScene
