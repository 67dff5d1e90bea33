import ShapeScene.Data.Datum

/-!
# Writing MessagePack

Every length and every integer is written in the shortest form that holds it, and every other
number in double precision.
-/

namespace ShapeScene.MessagePack

/-- The big-endian bytes of a number, of a given width. -/
def bigEndianBytes : (width value : Nat) → List UInt8
  | 0, _ => []
  | width + 1, value => UInt8.ofNat (value / Nat.pow 256 width) :: bigEndianBytes width value

/-- A natural number below `2 ^ 64`. -/
def naturalBytes (value : Nat) : List UInt8 :=
  if value < 0x80 then [UInt8.ofNat value]
  else if value < Nat.pow 2 8 then 0xCC :: bigEndianBytes 1 value
  else if value < Nat.pow 2 16 then 0xCD :: bigEndianBytes 2 value
  else if value < Nat.pow 2 32 then 0xCE :: bigEndianBytes 4 value
  else 0xCF :: bigEndianBytes 8 value

/-- An integer of at most eight bytes. A negative one is written as its distance from the bound of
its width. -/
def integerBytes (value : Int) : List UInt8 :=
  let size := value.natAbs
  if 0 ≤ value then naturalBytes size
  else if size ≤ 32 then [UInt8.ofNat (Nat.pow 2 8 - size)]
  else if size ≤ Nat.pow 2 7 then 0xD0 :: bigEndianBytes 1 (Nat.pow 2 8 - size)
  else if size ≤ Nat.pow 2 15 then 0xD1 :: bigEndianBytes 2 (Nat.pow 2 16 - size)
  else if size ≤ Nat.pow 2 31 then 0xD2 :: bigEndianBytes 4 (Nat.pow 2 32 - size)
  else 0xD3 :: bigEndianBytes 8 (Nat.pow 2 64 - size)

/-- The marker and length of a text. -/
def textHead (length : Nat) : List UInt8 :=
  if length < 32 then [UInt8.ofNat (0xA0 + length)]
  else if length < Nat.pow 2 8 then 0xD9 :: bigEndianBytes 1 length
  else if length < Nat.pow 2 16 then 0xDA :: bigEndianBytes 2 length
  else 0xDB :: bigEndianBytes 4 length

/-- The marker and length of bytes. -/
def bytesHead (length : Nat) : List UInt8 :=
  if length < Nat.pow 2 8 then 0xC4 :: bigEndianBytes 1 length
  else if length < Nat.pow 2 16 then 0xC5 :: bigEndianBytes 2 length
  else 0xC6 :: bigEndianBytes 4 length

/-- The marker and length of a list. -/
def listHead (length : Nat) : List UInt8 :=
  if length < 16 then [UInt8.ofNat (0x90 + length)]
  else if length < Nat.pow 2 16 then 0xDC :: bigEndianBytes 2 length
  else 0xDD :: bigEndianBytes 4 length

/-- The marker and length of a map. -/
def mapHead (length : Nat) : List UInt8 :=
  if length < 16 then [UInt8.ofNat (0x80 + length)]
  else if length < Nat.pow 2 16 then 0xDE :: bigEndianBytes 2 length
  else 0xDF :: bigEndianBytes 4 length

/-- A text. -/
def textBytes (text : String) : List UInt8 :=
  let bytes := Text.utf8 text
  textHead bytes.length ++ bytes

mutual
/-- A datum as MessagePack. -/
def bytesOf : Datum → List UInt8
  | .null => [0xC0]
  | .bool value => [if value then 0xC3 else 0xC2]
  | .integer _ value => integerBytes value
  | .real value => 0xCB :: bigEndianBytes 8 value.bits.toNat
  | .text value => textBytes value
  | .brokenText content => textHead content.length ++ content
  | .bytes value => bytesHead value.length ++ value
  | .list items => listHead items.length ++ itemBytes items
  | .map entries => mapHead entries.length ++ entryBytes entries
  | .extension _ _ => [0xC0]
  | .unreadable => [0xC0]

/-- The items of a list as MessagePack. -/
def itemBytes : List Datum → List UInt8
  | [] => []
  | item :: items => bytesOf item ++ itemBytes items

/-- The entries of a map as MessagePack. -/
def entryBytes : List (Datum × Datum) → List UInt8
  | [] => []
  | (key, value) :: entries => bytesOf key ++ bytesOf value ++ entryBytes entries
end

end ShapeScene.MessagePack
