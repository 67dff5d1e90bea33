import ShapeScene.Number.Binary64
import ShapeScene.Text.Utf8

/-!
# Structured data

One type of trees stands for what both file formats can say. Numbers remember how they were
written where that decides whether they may stand for a field or a variant, and a part that a
format can delimit but not give a value to is kept as unreadable, so that it does no harm where it
is ignored.
-/

namespace ShapeScene

/-- How an integer was written. -/
inductive IntegerForm where
  /-- As decimal digits. -/
  | decimal
  /-- As an unsigned word of one byte. -/
  | unsigned8
  /-- As an unsigned word of two bytes. -/
  | unsigned16
  /-- As an unsigned word of four bytes. -/
  | unsigned32
  /-- As an unsigned word of eight bytes. -/
  | unsigned64
  /-- As a signed word. -/
  | signed
  /-- As one of the bytes of a string. -/
  | byte
deriving DecidableEq, Repr

/-- Whether an integer of this form may stand for a position in a list of names. -/
def IntegerForm.isIndex : IntegerForm → Bool
  | decimal | signed | byte => false
  | unsigned8 | unsigned16 | unsigned32 | unsigned64 => true

/-- Whether an integer of this form may stand for the position of a field beside a tag. -/
def IntegerForm.isTaggedIndex : IntegerForm → Bool
  | unsigned8 | unsigned64 => true
  | decimal | signed | unsigned16 | unsigned32 | byte => false

/-- A tree of data. -/
inductive Datum where
  /-- Nothing. -/
  | null
  /-- A truth value. -/
  | bool (value : Bool)
  /-- An integer. -/
  | integer (form : IntegerForm) (value : Int)
  /-- A number that need not be an integer. -/
  | real (value : Binary64)
  /-- A text. -/
  | text (value : String)
  /-- A text whose bytes do not make characters. -/
  | brokenText (content : List UInt8)
  /-- A string of bytes. -/
  | bytes (value : List UInt8)
  /-- A sequence. -/
  | list (items : List Datum)
  /-- A sequence of keys with their values. -/
  | map (entries : List (Datum × Datum))
  /-- Typed data of an application. -/
  | extension (kind : Int) (payload : List UInt8)
  /-- Something well-formed without a value: a number out of range, a text with half a character,
  or a part nested too deeply. -/
  | unreadable
deriving Repr, Inhabited

namespace Datum

mutual
/-- Whether every part of a tree has a value. -/
def isReadable : Datum → Bool
  | unreadable => false
  | list items => areReadable items
  | map entries => entriesReadable entries
  | _ => true

/-- Whether every part of each item has a value. -/
def areReadable : List Datum → Bool
  | [] => true
  | item :: items => isReadable item && areReadable items

/-- Whether every part of each key and value has a value. -/
def entriesReadable : List (Datum × Datum) → Bool
  | [] => true
  | (key, value) :: entries => isReadable key && isReadable value && entriesReadable entries
end

/-- An object: texts as keys, in order. -/
def object (fields : List (String × Datum)) : Datum :=
  .map (fields.map fun (name, value) => (.text name, value))

/-- An unsigned number, as it is written. -/
def unsigned (value : Nat) : Datum := .integer .unsigned64 value

/-- A list of numbers. -/
def reals (values : List Binary64) : Datum := .list (values.map .real)

end Datum

end ShapeScene
