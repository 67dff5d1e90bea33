import Mathlib.Logic.Relation
import ShapeScene.Description.Reading
import ShapeScene.Proofs.Description.Joining
import ShapeScene.Proofs.Text.LetterCase

/-!
# Spellings of a description

A description is read the same way in capitals and in small letters, with white space at its ends
and without, and so is its lowercase form. All three are said of the phrases, since how a phrase is
read depends on nothing else.
-/

namespace ShapeScene

namespace Text

/-- The lowercase form of a text is its own lowercase form. -/
theorem lowercaseChars_lowercaseChars (chars : List Char) :
    lowercaseChars (lowercaseChars chars) = lowercaseChars chars :=
  lowercaseChars_of_isLowercase fun _ => isLowercase_of_mem_lowercaseChars

instance (chars : List Char) : Decidable (AllBlank chars) :=
  List.decidableBAll (fun char => isBlank char = true) chars

/-- A text is changed into another way to write it. -/
inductive Respelling : (chars others : List Char) → Prop where
  /-- Some ASCII letters change their case. -/
  | recased {chars others : List Char} (same : List.Forall₂ SameLetter chars others) :
    Respelling chars others
  /-- White space is added at the ends. -/
  | widened {left right : List Char} (leftBlank : AllBlank left) (chars : List Char)
    (rightBlank : AllBlank right) : Respelling chars (left ++ (chars ++ right))
  /-- White space is removed at the ends. -/
  | narrowed {left right : List Char} (leftBlank : AllBlank left) (chars : List Char)
    (rightBlank : AllBlank right) : Respelling (left ++ (chars ++ right)) chars

/-- A text is another one after any number of such changes. -/
def Respelled (text other : String) : Prop :=
  Relation.ReflTransGen Respelling text.toList other.toList

end Text

namespace Phrase

/-- A change of spelling keeps all phrases. -/
theorem phrases_respelling {chars others : List Char} (change : Text.Respelling chars others) :
    phrases others = phrases chars := by
  cases change with
  | recased same => rw [phrases, phrases, Text.lowercaseChars_recased same]
  | widened leftBlank chars rightBlank => exact phrases_append_blank leftBlank chars rightBlank
  | narrowed leftBlank chars rightBlank =>
    exact (phrases_append_blank leftBlank others rightBlank).symm

/-- Another spelling has the same phrases. -/
theorem segment_respelled {text other : String} (respelled : Text.Respelled text other) :
    segment other = segment text := by
  rw [segment_eq_phrases, segment_eq_phrases]
  unfold Text.Respelled at respelled
  generalize other.toList = others at respelled
  induction respelled with
  | refl => rfl
  | tail _ change ih => rw [phrases_respelling change, ih]

/-- The lowercase form of a text has the same phrases. -/
theorem segment_lowercase (text : String) : segment (Text.lowercase text) = segment text := by
  rw [segment_eq_phrases, segment_eq_phrases, Text.lowercase, String.toList_ofList, phrases,
    phrases, Text.lowercaseChars_lowercaseChars]

end Phrase

namespace Vocabulary

/-- A description is read the same way in every spelling, and so is its lowercase form. -/
theorem explain_respelled (vocabulary : Vocabulary) (text : String) :
    (∀ other, Text.Respelled text other → vocabulary.explain other = vocabulary.explain text) ∧
      vocabulary.explain (Text.lowercase text) = vocabulary.explain text := by
  refine ⟨?_, ?_⟩
  · intro other respelled
    rw [explain, explain, Phrase.segment_respelled respelled]
  · rw [explain, explain, Phrase.segment_lowercase]

/-- A description in capitals between wide blanks, with a sigma behind a letter that changed. -/
theorem explain_shoutedCube :
    Text.Respelled "an aΣ cube" "\u3000AN AΣ CUBE\n" ∧
    standard.explain "\u3000AN AΣ CUBE\n" = standard.explain "an aΣ cube" := by
  have respelled : Text.Respelled "an aΣ cube" "\u3000AN AΣ CUBE\n" := by
    have recased : Text.Respelling "an aΣ cube".toList "AN AΣ CUBE".toList :=
      .recased (by decide)
    have widened : Text.Respelling "AN AΣ CUBE".toList "\u3000AN AΣ CUBE\n".toList :=
      .widened (show Text.AllBlank ['\u3000'] by decide) _ (show Text.AllBlank ['\n'] by decide)
    exact (Relation.ReflTransGen.single recased).tail widened
  exact ⟨respelled, (standard.explain_respelled "an aΣ cube").1 _ respelled⟩

end Vocabulary

end ShapeScene
