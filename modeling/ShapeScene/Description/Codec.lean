import ShapeScene.Data.Fields
import ShapeScene.Description.Reading
import ShapeScene.Scene.Codec

/-!
# Entities as data

Entities are written with named channels and coordinates. The animation is always written, as null
when there is none.
-/

namespace ShapeScene

open Datum

namespace Entity

/-- The color of an entity as data. -/
def colorDatum (color : Rgb) : Datum :=
  .object [("r", .real color.red), ("g", .real color.green), ("b", .real color.blue)]

/-- The color of an entity from data. -/
def colorOfDatum? (datum : Datum) : Option Rgb := do
  match ← fieldsOf? ["r", "g", "b"] datum with
  | [red, green, blue] =>
    some ⟨← needed toReal? red, ← needed toReal? green, ← needed toReal? blue⟩
  | _ => none

/-- The position of an entity as data. -/
def positionDatum (position : Vec3) : Datum :=
  .object [("x", .real position.x), ("y", .real position.y), ("z", .real position.z)]

/-- The position of an entity from data. -/
def positionOfDatum? (datum : Datum) : Option Vec3 := do
  match ← fieldsOf? ["x", "y", "z"] datum with
  | [x, y, z] => some ⟨← needed toReal? x, ← needed toReal? y, ← needed toReal? z⟩
  | _ => none

/-- An entity as data. -/
def toDatum (entity : Entity) : Datum :=
  .object [("name", .text entity.name), ("shape", .text entity.shape.name),
    ("color", colorDatum entity.color), ("position", positionDatum entity.position),
    ("scale", .real entity.scale), ("rotation", entity.rotation.toDatum),
    ("animation",
      match entity.animation with
      | none => .null
      | some kind => .text kind.name),
    ("material", .text entity.material.name)]

/-- An entity from data. -/
def ofDatum? (datum : Datum) : Option Entity := do
  match ← fieldsOf?
    ["name", "shape", "color", "position", "scale", "rotation", "animation", "material"] datum with
  | [name, shape, color, position, scale, rotation, animation, material] =>
    some ⟨← needed toText? name, ← needed (kindOfDatum? ShapeKind.all ShapeKind.name) shape,
      ← needed colorOfDatum? color, ← needed positionOfDatum? position, ← needed toReal? scale,
      ← needed Vec3.ofDatum? rotation,
      ← optional (kindOfDatum? AnimationKind.all AnimationKind.name) animation,
      ← needed (kindOfDatum? MaterialKind.all MaterialKind.name) material⟩
  | _ => none

/-- A list of entities as indented JSON. -/
def listJson (entities : List Entity) : String := Json.pretty (.list (entities.map toDatum))

/-- A list of entities from data. -/
def listOfDatum? (datum : Datum) : Option (List Entity) := Datum.toList? ofDatum? datum

end Entity

end ShapeScene
