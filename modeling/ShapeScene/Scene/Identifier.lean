import ShapeScene.Text.Character

/-!
# Identifiers

Scenes and objects are named by universally unique identifiers of random blocks. An identifier
source is a stream of blocks with a position in it, so that what is drawn next depends only on how
much was drawn before.
-/

namespace ShapeScene

/-- A block of sixteen random bytes, the first byte most significant. -/
abbrev IdBlock := BitVec 128

/-- A universally unique identifier. -/
structure Uuid where
  /-- The sixteen bytes, the first byte most significant. -/
  bits : BitVec 128
deriving DecidableEq, Repr

namespace Uuid

/-- The four bits that say how the identifier was made. -/
def versionMask : BitVec 128 := 0xF#128 <<< 76

/-- The two bits that say which layout the identifier has. -/
def variantMask : BitVec 128 := 0x3#128 <<< 62

/-- Version four with the standard variant. -/
def randomMark : BitVec 128 := (0x4#128 <<< 76) ||| (0x2#128 <<< 62)

/-- The identifier of a random block: version and variant are set and all other bits are kept. -/
def ofBlock (block : IdBlock) : Uuid :=
  ⟨(block &&& ~~~(versionMask ||| variantMask)) ||| randomMark⟩

/-- The version of an identifier. -/
def version (id : Uuid) : Nat := id.bits.toNat / Nat.pow 2 76 % 16

/-- The hexadecimal digit at an index, counted from the left. -/
def digit (id : Uuid) (index : Nat) : Char :=
  Text.hexDigit (id.bits.toNat / Nat.pow 16 (31 - index) % 16)

/-- A run of hexadecimal digits. -/
def digits (id : Uuid) (start count : Nat) : List Char :=
  (List.range' start count).map id.digit

/-- All digits without hyphens. -/
def simpleText (id : Uuid) : List Char := id.digits 0 32

/-- The digits in groups of eight, four, four, four and twelve. -/
def hyphenatedText (id : Uuid) : List Char :=
  id.digits 0 8 ++ '-' :: id.digits 8 4 ++ '-' :: id.digits 12 4 ++ '-' :: id.digits 16 4 ++
    '-' :: id.digits 20 12

end Uuid

/-- A stream of random blocks, read up to a position. -/
structure IdSource where
  /-- The block at each position. -/
  block : Nat → IdBlock
  /-- Number of blocks drawn. -/
  position : Nat

namespace IdSource

/-- The identifier that is drawn `ahead` draws from now. -/
def uuidAhead (source : IdSource) (ahead : Nat) : Uuid :=
  Uuid.ofBlock (source.block (source.position + ahead))

/-- The source after a number of draws. -/
def advance (source : IdSource) (count : Nat) : IdSource :=
  { source with position := source.position + count }

/-- Number of digits in the name of a scene. -/
def sceneIdLength : Nat := 8

/-- The name of a scene: the first digits of an identifier. -/
def sceneName (id : Uuid) : String := String.ofList (id.simpleText.take sceneIdLength)

/-- The name of an object. -/
def objectName (id : Uuid) : String := String.ofList ("obj_".toList ++ id.hyphenatedText)

/-- Draw an identifier. -/
def nextUuid (source : IdSource) : Uuid × IdSource := (source.uuidAhead 0, source.advance 1)

/-- Draw the name of a scene. -/
def nextSceneId (source : IdSource) : String × IdSource :=
  (sceneName (source.uuidAhead 0), source.advance 1)

/-- Draw the name of an object. -/
def nextObjectId (source : IdSource) : String × IdSource :=
  (objectName (source.uuidAhead 0), source.advance 1)

end IdSource

end ShapeScene
