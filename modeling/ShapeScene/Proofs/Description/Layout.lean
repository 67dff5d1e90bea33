import ShapeScene.Description.Reading
import ShapeScene.Proofs.Description.Joining
import ShapeScene.Proofs.Number.Whole

/-!
# Reading descriptions joined by a connector

Phrases are read one by one and only the place of an entity depends on those before it, by their
number. So two descriptions with a separator between them are read like the first and then the
second, whose entities stand further down the row.
-/

namespace ShapeScene

/-- The entity at a place of the row stands three units from its neighbours, the first at minus
three. -/
theorem Row.nextPosition_eq {row : Row} (few : row.placed < 2 ^ 31) :
    row.nextPosition = ⟨Binary64.ofInt (3 * ((row.placed : Int) - 1)), 0, 0⟩ := by
  have small : ((row.placed : Int) - 1).natAbs * 3 < 2 ^ 53 := by omega
  have exact := Binary64.ofInt_mul_ofNat (by decide) (by decide) small
  rw [Int.mul_comm] at exact
  rw [Row.nextPosition]
  exact congrArg (fun x => (⟨x, 0, 0⟩ : Vec3)) exact

/-- The entities that phrases were read as. -/
def PhraseOutcome.accepted (outcomes : List PhraseOutcome) : List Entity :=
  outcomes.filterMap (·.entity)

/-- Outcomes with their entities placed anew, behind those of a row. -/
def PhraseOutcome.placedBehind : Row → List PhraseOutcome → List PhraseOutcome
  | _, [] => []
  | row, outcome :: later =>
    match outcome.entity with
    | none => outcome :: placedBehind row later
    | some entity =>
      ⟨outcome.phrase, some (entity.placedAt row.nextPosition)⟩ :: placedBehind row.advance later

namespace PhraseOutcome

/-- A skipped phrase has no entity. -/
theorem accepted_cons_of_none {outcome : PhraseOutcome} (skipped : outcome.entity = none)
    (later : List PhraseOutcome) : accepted (outcome :: later) = accepted later :=
  List.filterMap_cons_none skipped

/-- An entity comes before those of later phrases. -/
theorem accepted_cons_of_some {outcome : PhraseOutcome} {entity : Entity}
    (read : outcome.entity = some entity) (later : List PhraseOutcome) :
    accepted (outcome :: later) = entity :: accepted later :=
  List.filterMap_cons_some read

/-- Placing anew keeps all phrases. -/
theorem map_phrase_placedBehind (row : Row) (outcomes : List PhraseOutcome) :
    (placedBehind row outcomes).map phrase = outcomes.map phrase := by
  induction outcomes generalizing row with
  | nil => rfl
  | cons outcome later ih =>
    cases read : outcome.entity <;> simp only [placedBehind, read, List.map_cons, ih]

/-- Placing anew keeps all entities but for their places, which are numbered one by one. -/
theorem accepted_placedBehind (row : Row) (outcomes : List PhraseOutcome) :
    accepted (placedBehind row outcomes) =
      (accepted outcomes).mapIdx fun index entity =>
        entity.placedAt (Row.nextPosition ⟨row.placed + index⟩) := by
  induction outcomes generalizing row with
  | nil => rfl
  | cons outcome later ih =>
    cases read : outcome.entity with
    | none =>
      simp only [placedBehind, read]
      rw [accepted_cons_of_none read, accepted_cons_of_none read, ih]
    | some entity =>
      have rest := ih row.advance
      simp only [Row.advance, Nat.add_assoc, Nat.add_comm 1] at rest
      simp only [placedBehind, read]
      rw [accepted_cons_of_some rfl, accepted_cons_of_some read, List.mapIdx_cons, Row.advance,
        rest]
      rfl

end PhraseOutcome

namespace Vocabulary

open PhraseOutcome

variable (vocabulary : Vocabulary)

/-- The row matters to the places of entities alone. -/
theorem placedBehind_outcomesFrom (row other : Row) (phrases : List String) :
    placedBehind row (vocabulary.outcomesFrom other phrases) =
      vocabulary.outcomesFrom row phrases := by
  induction phrases generalizing row other with
  | nil => rfl
  | cons phrase later ih =>
    cases read : vocabulary.entityOf? phrase with
    | none => simp only [outcomesFrom, read, placedBehind, ih]
    | some entity => simp only [outcomesFrom, read, placedBehind, ih, Entity.placedAt]

/-- Phrases are read behind those before them, of which only the entities count. -/
theorem outcomesFrom_append (row : Row) (first second : List String) :
    vocabulary.outcomesFrom row (first ++ second) =
      vocabulary.outcomesFrom row first ++ vocabulary.outcomesFrom
        ⟨row.placed + (accepted (vocabulary.outcomesFrom row first)).length⟩ second := by
  induction first generalizing row with
  | nil => rfl
  | cons phrase later ih =>
    cases read : vocabulary.entityOf? phrase with
    | none =>
      simp only [List.cons_append, outcomesFrom, read]
      rw [ih, accepted_cons_of_none rfl]
    | some entity =>
      simp only [List.cons_append, outcomesFrom, read]
      rw [ih, accepted_cons_of_some rfl, List.length_cons, Row.advance, Nat.add_assoc,
        Nat.add_comm 1]

/-- The entities of a description are those of its phrases. -/
theorem parse_eq (description : String) :
    vocabulary.parse description = accepted (vocabulary.explain description) := rfl

/-- Every entity stands at the place that its number among the entities gives it. -/
theorem position_of_parse {description : String} {index : Nat} {entity : Entity}
    (found : (vocabulary.parse description)[index]? = some entity) :
    entity.position = Row.nextPosition ⟨index⟩ := by
  have placed := accepted_placedBehind Row.empty (vocabulary.explain description)
  rw [explain, placedBehind_outcomesFrom, ← explain, ← parse_eq] at placed
  rw [placed, List.getElem?_mapIdx] at found
  obtain ⟨unplaced, -, rfl⟩ := Option.map_eq_some_iff.mp found
  rw [Entity.placedAt, Row.empty, Nat.zero_add]

/-- Two descriptions with a separator between them are read like the first and then the second, the
entities of which are placed behind those of the first. -/
theorem explain_append {separator : String} (listed : separator ∈ Phrase.separators)
    (first second : String) :
    vocabulary.explain (first ++ separator ++ second) =
      vocabulary.explain first ++
        placedBehind ⟨(vocabulary.parse first).length⟩ (vocabulary.explain second) := by
  rw [explain, Phrase.segment_append listed, outcomesFrom_append, ← explain, ← parse_eq, explain,
    explain, placedBehind_outcomesFrom, Row.empty, Nat.zero_add]

/-- A text is read like a first text and then a second one. -/
structure ReadsOn (first second whole : String) : Prop where
  /-- The entities of the second text are placed behind those of the first, and all else stays. -/
  outcomes : vocabulary.explain whole =
    vocabulary.explain first ++
      placedBehind ⟨(vocabulary.parse first).length⟩ (vocabulary.explain second)
  /-- The phrases are those of both, skipped ones included. -/
  phrases : (vocabulary.explain whole).map phrase =
    (vocabulary.explain first).map phrase ++ (vocabulary.explain second).map phrase
  /-- The entities are those of both, the places of the second ones numbered on. -/
  entities : vocabulary.parse whole =
    vocabulary.parse first ++ (vocabulary.parse second).mapIdx fun index entity =>
      entity.placedAt (Row.nextPosition ⟨(vocabulary.parse first).length + index⟩)
  /-- The entities are those that phrases were read as. -/
  accepted : vocabulary.parse whole = (vocabulary.explain whole).filterMap (·.entity)
  /-- Entity by entity the row goes on by three units, from minus three. -/
  places : ∀ (index : Nat) (entity : Entity), (vocabulary.parse whole)[index]? = some entity →
    entity.position = ⟨Binary64.ofInt (3 * ((index : Int) - 1)), 0, 0⟩ ∧
      (Binary64.ofInt (3 * ((index : Int) - 1))).IsInt (3 * ((index : Int) - 1))

/-- Two descriptions with a separator between them are read like the first and then the second. -/
theorem readsOn_separator {separator : String} (listed : separator ∈ Phrase.separators)
    (first second : String)
    (few : (vocabulary.parse (first ++ separator ++ second)).length < 2 ^ 31 - 1) :
    vocabulary.ReadsOn first second (first ++ separator ++ second) := by
  have joined := vocabulary.explain_append listed first second
  refine ⟨joined, ?_, ?_, rfl, ?_⟩
  · rw [joined, List.map_append, map_phrase_placedBehind]
  · rw [parse_eq, joined, PhraseOutcome.accepted, List.filterMap_append, ← PhraseOutcome.accepted,
      ← PhraseOutcome.accepted, accepted_placedBehind, ← parse_eq, ← parse_eq]
  · intro index entity found
    have inside : index < 2 ^ 31 - 1 := by
      have := (List.getElem?_eq_some_iff.mp found).1
      omega
    constructor
    · rw [vocabulary.position_of_parse found, Row.nextPosition_eq (by simp only; omega)]
    · exact Binary64.isInt_ofInt (by omega)

/-- A cube, a phrase without a shape, and a sphere behind a separator. -/
theorem readsOn_cube_sphere :
    " next to " ∈ Phrase.separators ∧
    (standard.parse ("Red cube, sky" ++ " next to " ++ "SPHERE")).length < 2 ^ 31 - 1 ∧
    standard.ReadsOn "Red cube, sky" "SPHERE" ("Red cube, sky" ++ " next to " ++ "SPHERE") := by
  have listed : " next to " ∈ Phrase.separators := by decide
  have few : (standard.parse ("Red cube, sky" ++ " next to " ++ "SPHERE")).length < 2 ^ 31 - 1 := by
    decide +kernel
  exact ⟨listed, few, standard.readsOn_separator listed _ _ few⟩

end Vocabulary

end ShapeScene
