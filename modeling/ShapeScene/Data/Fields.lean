import ShapeScene.Data.Datum

/-!
# Reading structured data

A structure is read from a map or from a list. In a map the order of keys is free, unknown keys
are ignored and no known key may come twice; in a list the fields stand in their order, and only
fields with a default may be left out at the end. A variant is named by a text, by the bytes of a
text, by its position where the format allows positions, or by a map with that name as its only
key. A string of bytes can stand for a list of numbers, and for a structure of numbers, behind the
last of which it may go on.
-/

namespace ShapeScene.Datum

/-- Position of a name in a list, by the name itself. -/
def positionOfText? (names : List String) (name : String) : Option Nat := names.findIdx? (· == name)

/-- Position of a name in a list, by the bytes of the name. -/
def positionOfBytes? (names : List String) (content : List UInt8) : Option Nat :=
  names.findIdx? fun name => Text.utf8 name == content

/-- The field that a key names: none if it cannot be a key, and no position if no field has that
name. -/
def fieldOfKey? (isIndex : IntegerForm → Bool) (names : List String) :
    Datum → Option (Option Nat)
  | .text name => some (positionOfText? names name)
  | .bytes name => some (positionOfBytes? names name)
  | .brokenText _ => some none
  | .integer form value =>
    if isIndex form then some (if value.toNat < names.length then some value.toNat else none)
    else none
  | _ => none

/-- Bytes as a list of small numbers. -/
def ofBytes (content : List UInt8) : List Datum :=
  content.map fun byte => .integer .byte byte.toNat

/-- Put the values of map entries into the slots of their fields; no slot is filled twice. -/
def fillSlots (isIndex : IntegerForm → Bool) (names : List String) :
    List (Option Datum) → List (Datum × Datum) → Option (List (Option Datum))
  | slots, [] => some slots
  | slots, (key, value) :: entries =>
    match fieldOfKey? isIndex names key with
    | none => none
    | some none => fillSlots isIndex names slots entries
    | some (some position) =>
      match slots[position]? with
      | some none => fillSlots isIndex names (slots.set position (some value)) entries
      | _ => none

/-- The values of the named fields of a structure, in the order of the names. Fields from position
`required` on may be left out of a list. -/
def fields? (isIndex : IntegerForm → Bool) (names : List String) (required : Nat) :
    Datum → Option (List (Option Datum))
  | .map entries => fillSlots isIndex names (names.map fun _ => none) entries
  | .list items =>
    if required ≤ items.length ∧ items.length ≤ names.length then
      some (items.map some ++ List.replicate (names.length - items.length) none)
    else none
  | .bytes content =>
    if required ≤ content.length then
      some ((ofBytes (content.take names.length)).map some ++
        List.replicate (names.length - content.length) none)
    else none
  | _ => none

/-- The fields of a structure all of whose fields are needed in a list. -/
def fieldsOf? (names : List String) (datum : Datum) : Option (List (Option Datum)) :=
  fields? IntegerForm.isIndex names names.length datum

/-- Position of the variant that a datum names by itself. -/
def variantByName? (names : List String) (datum : Datum) : Option Nat :=
  (fieldOfKey? IntegerForm.isIndex names datum).join

/-- Position of the variant without fields that a datum stands for. -/
def variant? (names : List String) : Datum → Option Nat
  | .map [(key, .null)] => variantByName? names key
  | .map _ => none
  | datum => variantByName? names datum

/-- Whether a key is the key of a tag. -/
def isTagKey (tag : String) : Datum → Bool
  | .text name => name == tag
  | .bytes name => name == Text.utf8 tag
  | _ => false

/-- The tag of a structure with the data beside it: the only entry of a map under the tag's key,
or the first item of a list. Every part of the data beside the tag must have a value. -/
def tagged? (tag : String) : Datum → Option (Datum × Datum)
  | .map entries =>
    match entries.partition fun (key, _) => isTagKey tag key with
    | ([(_, value)], others) =>
      if entriesReadable others then some (value, .map others) else none
    | _ => none
  | .list (value :: others) => if areReadable others then some (value, .list others) else none
  | _ => none

/-- A truth value. -/
def toBool? : Datum → Option Bool
  | .bool value => some value
  | _ => none

/-- A number; an integer is rounded to the nearest. -/
def toReal? : Datum → Option Binary64
  | .real value => some value
  | .integer _ value => some (Binary64.ofInt value)
  | _ => none

/-- An integer between two bounds. -/
def toInteger? (low high : Int) : Datum → Option Int
  | .integer _ value => if low ≤ value ∧ value ≤ high then some value else none
  | _ => none

/-- An unsigned word of four bytes. -/
def toUInt32? (datum : Datum) : Option UInt32 :=
  (toInteger? 0 (Nat.pow 2 32 - 1) datum).map fun value => UInt32.ofNat value.toNat

/-- A signed word of one byte. -/
def toInt8? (datum : Datum) : Option Int8 := (toInteger? (-128) 127 datum).map Int8.ofInt

/-- A text, given as such or as its bytes. -/
def toText? : Datum → Option String
  | .text value => some value
  | .bytes value => Text.readUtf8? value
  | _ => none

/-- A list whose items are all read alike. A string of bytes is a list of small numbers. -/
def toList? {α : Type} (read : Datum → Option α) : Datum → Option (List α)
  | .list items => items.mapM read
  | .bytes content => (ofBytes content).mapM read
  | _ => none

/-- A list of three numbers. A string of bytes may go on behind the third. -/
def toTriple? (datum : Datum) : Option (Binary64 × Binary64 × Binary64) :=
  match datum with
  | .list [x, y, z] => triple x y z
  | .bytes content =>
    match ofBytes (content.take 3) with
    | [x, y, z] => triple x y z
    | _ => none
  | _ => none
where
  /-- Three data as numbers. -/
  triple (x y z : Datum) : Option (Binary64 × Binary64 × Binary64) := do
    some (← toReal? x, ← toReal? y, ← toReal? z)

/-- A field that must be there. -/
def needed {α : Type} (read : Datum → Option α) : Option Datum → Option α
  | some datum => read datum
  | none => none

/-- A field that may be missing or null. One of the bytes of a string is never left open so. -/
def optional {α : Type} (read : Datum → Option α) : Option Datum → Option (Option α)
  | none => some none
  | some .null => some none
  | some (.integer .byte _) => none
  | some datum => (read datum).map some

/-- A field that may be missing and then has a given value. -/
def defaulting {α : Type} (fallback : α) (read : Datum → Option α) : Option Datum → Option α
  | none => some fallback
  | some datum => read datum

end ShapeScene.Datum
