import ShapeScene.Description.Reading
import ShapeScene.Proofs.Description.Occurrences

/-!
# Keywords in phrases

Phrases are in lowercase and trimmed already, so a table is searched for the phrase as it is. A
keyword of letters that is no part of a connector is found in some phrase of a description exactly
when it occurs in its lowercase form. A keyword that counts as a whole word is found wherever it
stands alone exactly when it does not begin again inside of itself.
-/

namespace ShapeScene

/-- Where a keyword occurs in a text, said without a search. -/
def Keyword.OccursIn {Kind : Type} (keyword : Keyword Kind) (chars : List Char) : Prop :=
  match keyword.mode with
  | .substring => keyword.word.toList <:+: chars
  | .wholeWord => Text.StandsAlone keyword.word.toList chars

/-- A word that a search finds wherever it stands, and that stands in phrases only. -/
structure IsPlainWord (word : String) : Prop where
  /-- It can stand in phrases only. -/
  content : Phrase.IsContent word.toList
  /-- It has letters and numbers only. -/
  alphanumeric : word.toList.all Text.isAlphanumeric = true

instance (word : String) : Decidable (IsPlainWord word) :=
  decidable_of_iff (Phrase.IsContent word.toList ∧ word.toList.all Text.isAlphanumeric = true)
    ⟨fun ⟨content, alphanumeric⟩ => ⟨content, alphanumeric⟩,
      fun ⟨content, alphanumeric⟩ => ⟨content, alphanumeric⟩⟩

/-- The French keywords are plain words. -/
theorem isPlainWord_french : ∀ word ∈ Vocabulary.french.words, IsPlainWord word := by
  decide +kernel

namespace Phrase

variable {description phrase : String}

/-- A phrase of a description is trimmed. -/
theorem trim_of_mem_segment (member : phrase ∈ segment description) :
    Text.trim phrase = phrase := by
  obtain ⟨-, trimmed, -⟩ := clear_of_mem_segment member
  rw [Text.trim, Text.trimChars_of_isTrimmed trimmed, String.ofList_toList]

/-- A phrase of a description is in lowercase. -/
theorem lowercase_of_mem_segment (member : phrase ∈ segment description) :
    Text.lowercase phrase = phrase := by
  obtain ⟨-, -, lower, -⟩ := clear_of_mem_segment member
  rw [Text.lowercase, Text.lowercaseChars_of_isLowercase lower, String.ofList_toList]

/-- Something holds of a phrase of a description when it holds of its characters. -/
theorem exists_mem_segment (property : List Char → Prop) :
    (∃ phrase ∈ segment description, property phrase.toList) ↔
      ∃ chars ∈ phrases description.toList, property chars := by
  rw [segment_eq_phrases]
  constructor
  · rintro ⟨phrase, member, holds⟩
    obtain ⟨chars, among, rfl⟩ := List.mem_map.mp member
    rw [String.toList_ofList] at holds
    exact ⟨chars, among, holds⟩
  · rintro ⟨chars, among, holds⟩
    refine ⟨String.ofList chars, List.mem_map_of_mem among, ?_⟩
    rwa [String.toList_ofList]

end Phrase

namespace Keyword

variable {Kind : Type} {keyword : Keyword Kind}

/-- All keywords of a table have its mode. -/
theorem mode_of_mem_ofTable {mode : MatchMode} {table : List (String × Kind)}
    (member : keyword ∈ ofTable mode table) : keyword.mode = mode := by
  obtain ⟨entry, -, rfl⟩ := List.mem_map.mp member
  rfl

/-- The search finds a plain word exactly where it occurs. -/
theorem foundIn_iff (plain : IsPlainWord keyword.word) (text : String) :
    keyword.foundIn text = true ↔ keyword.OccursIn text.toList := by
  unfold foundIn OccursIn
  cases keyword.mode with
  | substring => exact Text.occursIn_iff_infix
  | wholeWord =>
    exact Text.standsAloneIn_iff plain.content.nonempty (List.all_eq_true.mp plain.alphanumeric)
      text.toList

/-- A plain word is found in some phrase of a description exactly when it occurs in its lowercase
form. -/
theorem foundIn_segment_iff (plain : IsPlainWord keyword.word) (description : String) :
    (∃ phrase ∈ Phrase.segment description, keyword.foundIn phrase = true) ↔
      keyword.OccursIn (Text.lowercaseChars description.toList) := by
  simp only [foundIn_iff plain]
  rw [Phrase.exists_mem_segment]
  unfold OccursIn
  cases keyword.mode with
  | substring => exact plain.content.infix_phrase_iff
  | wholeWord => exact plain.content.standsAlone_phrase_iff

/-- A keyword that counts as a whole word is found only where it stands alone. It is found in every
text where it does exactly when no occurrence of it can stand alone that overlaps an earlier one. -/
theorem foundIn_standsAlone (whole : keyword.mode = .wholeWord) (some : keyword.word ≠ "") :
    (∀ text, keyword.foundIn text = true →
        Text.StandsAlone keyword.word.toList text.toList) ∧
      ((∀ text, Text.StandsAlone keyword.word.toList text.toList →
        keyword.foundIn text = true) ↔ ¬Text.BeginsAgain keyword.word.toList) := by
  have nonempty : keyword.word.toList ≠ [] := fun empty => some (String.toList_eq_nil_iff.mp empty)
  have search (text : String) : keyword.foundIn text =
      Text.standsAloneIn keyword.word.toList text.toList := by
    rw [foundIn, whole]
  refine ⟨fun text found => ?_, ?_⟩
  · rw [search] at found
    exact Text.standsAlone_of_found nonempty found
  · rw [← Text.standsAloneIn_of_standsAlone_iff nonempty]
    constructor
    · intro finds chars stands
      have found := finds (String.ofList chars) (by rwa [String.toList_ofList])
      rwa [search, String.toList_ofList] at found
    · intro finds text stands
      rw [search]
      exact finds text.toList stands

/-- A keyword of letters is found exactly where it stands alone. -/
theorem torus_foundIn_standsAlone :
    "tore" ≠ "" ∧ ∀ text, (⟨"tore", .torus, .wholeWord⟩ : Keyword ShapeKind).foundIn text = true ↔
      Text.StandsAlone "tore".toList text.toList := by
  have once : ¬Text.BeginsAgain "tore".toList :=
    Text.not_beginsAgain_of_letters (List.all_eq_true.mp (by decide +kernel))
  obtain ⟨only, wherever⟩ :=
    @foundIn_standsAlone ShapeKind ⟨"tore", .torus, .wholeWord⟩ rfl (by decide)
  exact ⟨by decide, fun text => ⟨only text, wherever.mpr once text⟩⟩

/-- A keyword of two hyphens is not found behind an occurrence that overlaps it. -/
theorem hyphens_missed :
    Text.StandsAlone "- -".toList "x- - -".toList ∧
      (⟨"- -", .cube, .wholeWord⟩ : Keyword ShapeKind).foundIn "x- - -" = false :=
  ⟨⟨"x- ".toList, [], by decide, by decide +kernel, rfl⟩, by decide +kernel⟩

end Keyword

namespace Vocabulary

variable {Kind : Type}

/-- The words of a vocabulary are those of its tables. -/
theorem mem_words {vocabulary : Vocabulary} {word : String} :
    word ∈ vocabulary.words ↔ (∃ keyword ∈ vocabulary.shapes, keyword.word = word) ∨
      (∃ keyword ∈ vocabulary.colors, keyword.word = word) ∨
      (∃ keyword ∈ vocabulary.animations, keyword.word = word) ∨
      ∃ keyword ∈ vocabulary.materials, keyword.word = word := by
  simp only [words, List.mem_append, List.mem_map, or_assoc]

/-- A table is searched for a phrase of a description as it is. -/
theorem firstFound?_of_mem_segment {description phrase : String}
    (member : phrase ∈ Phrase.segment description) (table : List (Keyword Kind)) :
    firstFound? table (Text.lowercase (Text.trim phrase)) = table.find? (·.foundIn phrase) := by
  rw [firstFound?, Phrase.trim_of_mem_segment member]
  simp only [Phrase.lowercase_of_mem_segment member]

/-- A phrase names an object exactly when a keyword for a shape is found in it. -/
theorem isSome_entityOf? (vocabulary : Vocabulary) {description phrase : String}
    (member : phrase ∈ Phrase.segment description) :
    (vocabulary.entityOf? phrase).isSome = true ↔
      ∃ keyword ∈ vocabulary.shapes, keyword.foundIn phrase = true := by
  rw [entityOf?, Option.isSome_map, shapeIn?, firstFound?_of_mem_segment member,
    List.find?_isSome]

end Vocabulary

end ShapeScene
