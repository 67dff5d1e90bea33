import ShapeScene.Description.Entity
import ShapeScene.Description.Phrase
import ShapeScene.Description.Vocabulary

/-!
# Reading a description

Each phrase is read by itself: the shape decides whether it names an object at all, and color,
animation and material have defaults. Objects are then placed in a row along the first axis.
-/

namespace ShapeScene

/-- The row in which objects are placed, three units apart with the first at minus three. -/
structure Row where
  /-- Number of objects placed so far. -/
  placed : Nat
deriving DecidableEq, Repr

namespace Row

/-- The row without objects. -/
def empty : Row := ⟨0⟩

/-- Distance between neighbours. -/
def spacing : Binary64 := 3

/-- The position of the next object. -/
def nextPosition (row : Row) : Vec3 := ⟨Binary64.ofInt ((row.placed : Int) - 1) * spacing, 0, 0⟩

/-- The row with one more object. -/
def advance (row : Row) : Row := ⟨row.placed + 1⟩

end Row

/-- A phrase and the entity it was read as, if it names a shape. -/
structure PhraseOutcome where
  /-- The phrase. -/
  phrase : String
  /-- The entity, in its place. -/
  entity : Option Entity
deriving DecidableEq, Repr

namespace Vocabulary

/-- The entity that a phrase names, before it is placed. -/
def entityOf? (vocabulary : Vocabulary) (phrase : String) : Option Entity :=
  let lowered := Text.lowercase (Text.trim phrase)
  (vocabulary.shapeIn? lowered).map fun shape =>
    let color := ((vocabulary.colorIn? lowered).map (·.kind)).getD .white
    { Entity.plain shape.kind color with
      animation := (vocabulary.animationIn? lowered).map (·.kind)
      material := (vocabulary.materialIn? lowered).getD .matte }

/-- The outcomes of phrases whose objects are placed behind those of a row. -/
def outcomesFrom (vocabulary : Vocabulary) : Row → List String → List PhraseOutcome
  | _, [] => []
  | row, phrase :: later =>
    match vocabulary.entityOf? phrase with
    | none => ⟨phrase, none⟩ :: outcomesFrom vocabulary row later
    | some entity =>
      ⟨phrase, some (entity.placedAt row.nextPosition)⟩ ::
        outcomesFrom vocabulary row.advance later

/-- How every phrase of a description is read. -/
def explain (vocabulary : Vocabulary) (description : String) : List PhraseOutcome :=
  vocabulary.outcomesFrom Row.empty (Phrase.segment description)

/-- The entities of a description. -/
def parse (vocabulary : Vocabulary) (description : String) : List Entity :=
  (vocabulary.explain description).filterMap (·.entity)

end Vocabulary

end ShapeScene
