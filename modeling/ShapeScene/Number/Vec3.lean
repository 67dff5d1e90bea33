import ShapeScene.Number.Binary64

/-!
# Vectors of space

Positions, directions, sizes and Euler angles are triples of numbers. The products are evaluated
term by term from the left, so that each rounding happens where the formula puts it.
-/

namespace ShapeScene

/-- A triple of numbers along the three axes. -/
structure Vec3 where
  /-- First coordinate. -/
  x : Binary64
  /-- Second coordinate. -/
  y : Binary64
  /-- Third coordinate. -/
  z : Binary64
deriving DecidableEq, Repr, Inhabited

namespace Vec3

/-- The zero vector. -/
def origin : Vec3 := ⟨0, 0, 0⟩

/-- The same number along every axis. -/
def uniform (length : Binary64) : Vec3 := ⟨length, length, length⟩

/-- The coordinates in axis order. -/
def toList (v : Vec3) : List Binary64 := [v.x, v.y, v.z]

/-- The vector of a list of three coordinates. -/
def ofList? : List Binary64 → Option Vec3
  | [x, y, z] => some ⟨x, y, z⟩
  | _ => none

/-- The difference, coordinate by coordinate. -/
def sub (v w : Vec3) : Vec3 := ⟨v.x - w.x, v.y - w.y, v.z - w.z⟩

/-- A vector times a number. -/
def scale (v : Vec3) (factor : Binary64) : Vec3 := ⟨v.x * factor, v.y * factor, v.z * factor⟩

/-- The inner product. -/
def dot (v w : Vec3) : Binary64 := v.x * w.x + v.y * w.y + v.z * w.z

/-- The outer product. -/
def cross (v w : Vec3) : Vec3 :=
  ⟨v.y * w.z - v.z * w.y, v.z * w.x - v.x * w.z, v.x * w.y - v.y * w.x⟩

/-- The vector of length one in the same direction: the vector times the inverse of its length. -/
def normalize (v : Vec3) : Vec3 := v.scale (1 / (v.dot v).sqrt)

/-- Whether every coordinate is the same number. -/
def sameNumbers (v w : Vec3) : Bool :=
  v.x.sameNumber w.x && v.y.sameNumber w.y && v.z.sameNumber w.z

/-- Whether every coordinate is a number. -/
def isFinite (v : Vec3) : Bool := v.x.isFinite && v.y.isFinite && v.z.isFinite

end Vec3

end ShapeScene
