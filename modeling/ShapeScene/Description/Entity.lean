import ShapeScene.Description.Kind
import ShapeScene.Number.Vec3

/-!
# Entities

An entity is what one phrase of a description asks for: a shape with a color, a material, perhaps
an animation, and the place that the layout gives it.
-/

namespace ShapeScene

/-- An object that a phrase describes. -/
structure Entity where
  /-- Color and shape in words. -/
  name : String
  /-- The shape. -/
  shape : ShapeKind
  /-- The color. -/
  color : Rgb
  /-- Where the object stands. -/
  position : Vec3
  /-- Size relative to the size of its shape. -/
  scale : Binary64
  /-- Euler angles. -/
  rotation : Vec3
  /-- The animation, if there is one. -/
  animation : Option AnimationKind
  /-- The material. -/
  material : MaterialKind
deriving DecidableEq, Repr

namespace Entity

/-- A still, matte entity of unit size at the origin. -/
def plain (shape : ShapeKind) (color : NamedColor) : Entity where
  name := color.name ++ " " ++ shape.name
  shape := shape
  color := color.rgb
  position := Vec3.origin
  scale := 1
  rotation := Vec3.origin
  animation := none
  material := .matte

/-- The entity moved to a position. -/
def placedAt (entity : Entity) (position : Vec3) : Entity := { entity with position := position }

end Entity

end ShapeScene
