import ShapeScene.Proofs.Console.Account
import ShapeScene.Proofs.Description.Keywords
import ShapeScene.Proofs.Description.Layout
import ShapeScene.Scene.SeededIds

/-!
# Descriptions that give a scene

A description gives a scene when a keyword for a shape occurs in its lowercase form, and only then:
connectors neither cut such a keyword nor bring one about. Which error the other descriptions give
depends on whether they are blank.
-/

namespace ShapeScene

/-- Nothing is left of a text after trimming exactly when it is white space. -/
theorem Text.isEmpty_trim (text : String) : (trim text).isEmpty = isBlankText text := by
  rw [Bool.eq_iff_iff, String.isEmpty_iff, isBlankText, List.all_eq_true, trim,
    ← String.toList_inj, String.toList_ofList]
  constructor
  · exact Phrase.allBlank_of_trimChars_eq_nil
  · intro blank
    have trimmed := trimChars_append_blank blank [] AllBlank.nil
    rwa [List.nil_append, List.append_nil] at trimmed

/-- White space around a description makes no difference to its phrases. -/
theorem Phrase.segment_trim (description : String) :
    segment (Text.trim description) = segment description := by
  rw [segment_eq, segment_eq, Text.trim, String.toList_ofList,
    Text.trimChars_of_isTrimmed (Text.isTrimmed_trimChars _)]

namespace Vocabulary

/-- A keyword for a shape occurs in a text. -/
def NamesShape (vocabulary : Vocabulary) (chars : List Char) : Prop :=
  ∃ keyword ∈ vocabulary.shapes, keyword.OccursIn chars

variable (vocabulary : Vocabulary)

/-- Phrases give no entities exactly when none of them is read as one. -/
theorem accepted_outcomesFrom_eq_nil {row : Row} {phrases : List String} :
    PhraseOutcome.accepted (vocabulary.outcomesFrom row phrases) = [] ↔
      ∀ phrase ∈ phrases, vocabulary.entityOf? phrase = none := by
  induction phrases generalizing row with
  | nil => exact iff_of_true rfl (fun _ member => nomatch member)
  | cons phrase later ih =>
    rw [List.forall_mem_cons]
    cases read : vocabulary.entityOf? phrase with
    | none =>
      simp only [outcomesFrom, read, true_and]
      rw [PhraseOutcome.accepted_cons_of_none rfl, ih]
    | some entity =>
      simp only [outcomesFrom, read, reduceCtorEq, false_and, iff_false]
      rw [PhraseOutcome.accepted_cons_of_some rfl]
      exact List.cons_ne_nil _ _

/-- White space around a description makes no difference to its entities. -/
theorem parse_trim (description : String) :
    vocabulary.parse (Text.trim description) = vocabulary.parse description := by
  simp only [parse, explain, Phrase.segment_trim]

/-- A description has entities exactly when a keyword for a shape occurs in its lowercase form. -/
theorem parse_ne_nil_iff (plain : ∀ keyword ∈ vocabulary.shapes, IsPlainWord keyword.word)
    (description : String) :
    vocabulary.parse description ≠ [] ↔
      vocabulary.NamesShape (Text.lowercaseChars description.toList) := by
  rw [parse_eq, explain, Ne, accepted_outcomesFrom_eq_nil]
  simp only [not_forall, ← Option.isSome_iff_ne_none]
  constructor
  · rintro ⟨phrase, member, read⟩
    obtain ⟨keyword, listed, found⟩ := (vocabulary.isSome_entityOf? member).mp read
    have occurs := keyword.foundIn_segment_iff (plain keyword listed) description
    exact ⟨keyword, listed, occurs.mp ⟨phrase, member, found⟩⟩
  · rintro ⟨keyword, listed, occurs⟩
    have found := keyword.foundIn_segment_iff (plain keyword listed) description
    obtain ⟨phrase, member, here⟩ := found.mpr occurs
    exact ⟨phrase, member, (vocabulary.isSome_entityOf? member).mpr ⟨keyword, listed, here⟩⟩

/-- A word for a shape occurs in a text: an English one anywhere or, where French counts, a French
one that stands alone. -/
def ShapeWordIn (withFrench : Bool) (chars : List Char) : Prop :=
  (∃ entry ∈ englishShapes, entry.1.toList <:+: chars) ∨
    withFrench = true ∧ ∃ entry ∈ frenchShapes, Text.StandsAlone entry.1.toList chars

/-- The vocabulary in which French counts or not. -/
def languages (withFrench : Bool) : Vocabulary := if withFrench then standard else english

/-- Both vocabularies name a shape by the words of their tables. -/
theorem namesShape_languages_iff (withFrench : Bool) (chars : List Char) :
    (languages withFrench).NamesShape chars ↔ ShapeWordIn withFrench chars := by
  cases withFrench with
  | false =>
    simp only [languages, ShapeWordIn, NamesShape, english, Keyword.ofTable, List.mem_map,
      exists_exists_and_eq_and, Keyword.OccursIn, Bool.false_eq_true, if_false, false_and, or_false]
  | true =>
    simp only [languages, ShapeWordIn, NamesShape, standard, append, english, french,
      Keyword.ofTable, List.mem_append, List.mem_map, or_and_right, exists_or,
      exists_exists_and_eq_and, Keyword.OccursIn, if_true, true_and]

/-- The words for shapes of both vocabularies are plain. -/
theorem isPlainWord_languages (withFrench : Bool) :
    ∀ keyword ∈ (languages withFrench).shapes, IsPlainWord keyword.word := by
  cases withFrench <;> decide +kernel

end Vocabulary

namespace Session

open Vocabulary

variable (session : Session)

/-- A blank description is refused as such. -/
theorem generate_of_blank {description : String} (blank : Text.isBlankText description = true)
    (now : Moment) :
    session.generate description now = .error (.ofKind .emptyDescription) := by
  rw [← Text.isEmpty_trim] at blank
  exact if_pos blank

/-- A description that is not blank and has no entities is refused with its trimmed text. -/
theorem generate_of_parse_eq_nil {description : String}
    (filled : Text.isBlankText description = false)
    (unnamed : session.vocabulary.parse description = []) (now : Moment) :
    session.generate description now =
      .error (.ofKind (.unparseable (Text.trim description))) := by
  rw [← Text.isEmpty_trim] at filled
  rw [← parse_trim] at unnamed
  simp only [generate, filled, unnamed, List.isEmpty_nil, Bool.false_eq_true, if_false, if_true]

/-- A description with entities gives a scene with objects. -/
theorem generate_of_parse_ne_nil {description : String}
    (named : session.vocabulary.parse description ≠ []) (now : Moment) :
    ∃ generated behind, session.generate description now = .ok (generated, behind) ∧
      generated.scene.scene.objects ≠ [] := by
  rw [← parse_trim] at named
  refine ⟨_, _, session.generate_named now named, ?_⟩
  rw [sceneOf_objects_ne_nil_iff]
  exact named

/-- What a session makes of a description by the words for shapes in its lowercase form. -/
structure AnswersByShapes (withFrench : Bool) (description : String) (now : Moment) : Prop where
  /-- A blank description, and no other, is refused as empty. -/
  empty : session.generate description now = .error (.ofKind .emptyDescription) ↔
    Text.isBlankText description = true
  /-- Of the others, one without a word for a shape is refused as unparseable. -/
  unparseable : Text.isBlankText description = false →
    (session.generate description now =
        .error (.ofKind (.unparseable (Text.trim description))) ↔
      ¬ ShapeWordIn withFrench (Text.lowercaseChars description.toList))
  /-- One with such a word gives a scene with objects. -/
  made : Text.isBlankText description = false →
    ShapeWordIn withFrench (Text.lowercaseChars description.toList) →
    ∃ generated behind, session.generate description now = .ok (generated, behind) ∧
      generated.scene.scene.objects ≠ []
  /-- A keyword for a shape is found in some phrase exactly when it occurs in the whole text. -/
  split : ∀ keyword ∈ session.vocabulary.shapes,
    ((∃ phrase ∈ Phrase.segment description, keyword.foundIn phrase = true) ↔
      keyword.OccursIn (Text.lowercaseChars description.toList))

/-- A session with the English or the standard vocabulary gives a scene exactly for the descriptions
in whose lowercase form a word for a shape occurs, and tells blank descriptions from others without
one. -/
theorem generate_answersByShapes {withFrench : Bool}
    (known : session.vocabulary = languages withFrench) (description : String) (now : Moment) :
    session.AnswersByShapes withFrench description now := by
  have plain := isPlainWord_languages withFrench
  rw [← known] at plain
  have named := session.vocabulary.parse_ne_nil_iff plain description
  rw [known, namesShape_languages_iff, ← known] at named
  refine ⟨⟨fun refused => ?_, fun blank => session.generate_of_blank blank now⟩,
    fun filled => ⟨fun refused occurs => ?_, fun absent => ?_⟩, fun _ occurs => ?_,
    fun keyword listed => keyword.foundIn_segment_iff (plain keyword listed) description⟩
  · -- A description that is not blank gives a scene or another error.
    rw [← Bool.not_eq_false]
    intro filled
    by_cases unnamed : session.vocabulary.parse description = []
    · rw [session.generate_of_parse_eq_nil filled unnamed now] at refused
      cases refused
    · obtain ⟨generated, behind, made, -⟩ := session.generate_of_parse_ne_nil unnamed now
      cases made.symm.trans refused
  · obtain ⟨generated, behind, made, -⟩ :=
      session.generate_of_parse_ne_nil (named.mpr occurs) now
    cases made.symm.trans refused
  · exact session.generate_of_parse_eq_nil filled
      (Decidable.not_not.mp fun some => absent (named.mp some)) now
  · exact session.generate_of_parse_ne_nil (named.mpr occurs) now

/-- A new session with the English or the standard vocabulary. -/
def speaking (withFrench : Bool) : Session where
  vocabulary := languages withFrench
  ids := SeededIds.source 42
  options := SceneOptions.of false true
  size := ImageSize.standard
  raytracer := ⟨none, 30000, false⟩
  store := none
  last := none

/-- A ring behind a connector is found by those who know French; the ball before it does not stand
alone, since a raised two is a number though no part of a word. -/
theorem generate_ring :
    (speaking true).vocabulary = languages true ∧ (speaking false).vocabulary = languages false ∧
    (∃ generated behind,
      (speaking true).generate "Une SPHÈRE²and TORE" ⟨2024, 3, 9, 14, 5, 30, 250⟩ =
          .ok (generated, behind) ∧
        generated.scene.scene.objects ≠ []) ∧
    (speaking false).generate "Une SPHÈRE²and TORE" ⟨2024, 3, 9, 14, 5, 30, 250⟩ =
      .error (.ofKind (.unparseable "Une SPHÈRE²and TORE")) := by
  have filled : Text.isBlankText "Une SPHÈRE²and TORE" = false := by decide +kernel
  have ring : ShapeWordIn true (Text.lowercaseChars "Une SPHÈRE²and TORE".toList) := by
    have letters : "tore".toList.all Text.isAlphanumeric = true := by decide +kernel
    refine .inr ⟨rfl, ("tore", .torus), by decide, ?_⟩
    rw [← Text.standsAloneIn_iff (by decide) (List.all_eq_true.mp letters)]
    decide +kernel
  have nothing : ¬ ShapeWordIn false (Text.lowercaseChars "Une SPHÈRE²and TORE".toList) := by
    simp only [ShapeWordIn, Bool.false_eq_true, false_and, or_false, ← Text.occursIn_iff_infix]
    decide +kernel
  have trimmed : Text.trim "Une SPHÈRE²and TORE" = "Une SPHÈRE²and TORE" := by decide +kernel
  have french : (speaking true).vocabulary = languages true := rfl
  have only : (speaking false).vocabulary = languages false := rfl
  have answers := (speaking true).generate_answersByShapes french "Une SPHÈRE²and TORE"
    ⟨2024, 3, 9, 14, 5, 30, 250⟩
  have answersEnglish := (speaking false).generate_answersByShapes only "Une SPHÈRE²and TORE"
    ⟨2024, 3, 9, 14, 5, 30, 250⟩
  have refused := (answersEnglish.unparseable filled).mpr nothing
  rw [trimmed] at refused
  exact ⟨french, only, answers.made filled ring, refused⟩

end Session

end ShapeScene
