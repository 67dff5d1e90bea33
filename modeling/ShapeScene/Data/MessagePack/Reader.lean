import ShapeScene.Data.Datum

/-!
# Reading MessagePack

The first byte of a value is its marker: it says what follows, and for small values holds them.
Lengths and numbers are big-endian. Lists, maps and application data nest at most 1023 levels.
-/

namespace ShapeScene.MessagePack

/-- One more than the greatest number of levels. -/
def maxDepth : Nat := 1024

/-- The number that big-endian bytes write. -/
def bigEndian (bytes : List UInt8) : Nat :=
  bytes.foldl (fun value byte => value * 256 + byte.toNat) 0

/-- A given number of bytes from the front, and those behind. -/
def take? (count : Nat) (bytes : List UInt8) : Option (List UInt8 × List UInt8) :=
  let front := bytes.take count
  if front.length = count then some (front, bytes.drop count) else none

/-- A big-endian number of a given width. -/
def readNatural? (width : Nat) (bytes : List UInt8) : Option (Nat × List UInt8) :=
  (take? width bytes).map fun (front, rest) => (bigEndian front, rest)

/-- The signed number in two's complement of a given width. -/
def toSigned (width value : Nat) : Int :=
  if value < Nat.pow 2 (8 * width - 1) then value else (value : Int) - Nat.pow 2 (8 * width)

/-- What a marker says. -/
inductive Marker where
  /-- A value that the marker holds. -/
  | value (datum : Datum)
  /-- An unsigned number of a given width. -/
  | unsigned (form : IntegerForm) (width : Nat)
  /-- A signed number of a given width. -/
  | signed (width : Nat)
  /-- A number of single precision. -/
  | single
  /-- A number of double precision. -/
  | double
  /-- A text whose length has a given width. -/
  | text (width : Nat)
  /-- A text of a given length. -/
  | shortText (length : Nat)
  /-- Bytes whose length has a given width. -/
  | bytes (width : Nat)
  /-- A list whose length has a given width. -/
  | list (width : Nat)
  /-- A list of a given length. -/
  | shortList (length : Nat)
  /-- A map whose length has a given width. -/
  | map (width : Nat)
  /-- A map of a given length. -/
  | shortMap (length : Nat)
  /-- Application data whose length has a given width. -/
  | extension (width : Nat)
  /-- Application data of a given length. -/
  | shortExtension (length : Nat)
  /-- No marker. -/
  | reserved

/-- What a byte says as a marker. -/
def Marker.ofByte (byte : UInt8) : Marker :=
  let code := byte.toNat
  if code < 0x80 then .value (.integer .unsigned8 code)
  else if code < 0x90 then .shortMap (code - 0x80)
  else if code < 0xA0 then .shortList (code - 0x90)
  else if code < 0xC0 then .shortText (code - 0xA0)
  else if 0xE0 ≤ code then .value (.integer .signed ((code : Int) - 256))
  else
    match code with
    | 0xC0 => .value .null
    | 0xC2 => .value (.bool false)
    | 0xC3 => .value (.bool true)
    | 0xC4 => .bytes 1
    | 0xC5 => .bytes 2
    | 0xC6 => .bytes 4
    | 0xC7 => .extension 1
    | 0xC8 => .extension 2
    | 0xC9 => .extension 4
    | 0xCA => .single
    | 0xCB => .double
    | 0xCC => .unsigned .unsigned8 1
    | 0xCD => .unsigned .unsigned16 2
    | 0xCE => .unsigned .unsigned32 4
    | 0xCF => .unsigned .unsigned64 8
    | 0xD0 => .signed 1
    | 0xD1 => .signed 2
    | 0xD2 => .signed 4
    | 0xD3 => .signed 8
    | 0xD4 => .shortExtension 1
    | 0xD5 => .shortExtension 2
    | 0xD6 => .shortExtension 4
    | 0xD7 => .shortExtension 8
    | 0xD8 => .shortExtension 16
    | 0xD9 => .text 1
    | 0xDA => .text 2
    | 0xDB => .text 4
    | 0xDC => .list 2
    | 0xDD => .list 4
    | 0xDE => .map 2
    | 0xDF => .map 4
    | _ => .reserved

/-- A text of a given length, which is broken if its bytes do not make characters. -/
def readText? (length : Nat) (bytes : List UInt8) : Option (Datum × List UInt8) :=
  (take? length bytes).map fun (front, rest) =>
    match Text.readUtf8? front with
    | some text => (.text text, rest)
    | none => (.brokenText front, rest)

/-- Application data of a given length behind the byte of its type, at a depth that is not the
last. -/
def readExtension? (depth length : Nat) (bytes : List UInt8) : Option (Datum × List UInt8) := do
  if depth = 0 then none
  else
    let (kind, behind) ← readNatural? 1 bytes
    let (payload, rest) ← take? length behind
    some (.extension (toSigned 1 kind) payload, rest)

/-- A given number of items. -/
def readMany? {α : Type} (read : List UInt8 → Option (α × List UInt8)) :
    (count : Nat) → List UInt8 → Option (List α × List UInt8)
  | 0, bytes => some ([], bytes)
  | count + 1, bytes =>
    match read bytes with
    | none => none
    | some (item, behind) =>
      (readMany? read count behind).map fun (items, rest) => (item :: items, rest)

/-- A key and its value. -/
def readPair? (read : List UInt8 → Option (Datum × List UInt8)) (bytes : List UInt8) :
    Option ((Datum × Datum) × List UInt8) := do
  let (key, behind) ← read bytes
  let (value, rest) ← read behind
  some ((key, value), rest)

/-- A list of a given length at a depth that is not the last. -/
def readList? (depth : Nat) (read : List UInt8 → Option (Datum × List UInt8)) (length : Nat)
    (bytes : List UInt8) : Option (Datum × List UInt8) :=
  if depth = 0 then none
  else (readMany? read length bytes).map fun (items, rest) => (.list items, rest)

/-- A map of a given length at a depth that is not the last. -/
def readMap? (depth : Nat) (read : List UInt8 → Option (Datum × List UInt8)) (length : Nat)
    (bytes : List UInt8) : Option (Datum × List UInt8) :=
  if depth = 0 then none
  else (readMany? (readPair? read) length bytes).map fun (entries, rest) => (.map entries, rest)

/-- The value at the front of the bytes, which nests fewer than `depth` levels. -/
def readValue? : (depth : Nat) → List UInt8 → Option (Datum × List UInt8)
  | 0, _ => none
  | _ + 1, [] => none
  | depth + 1, byte :: bytes =>
    match Marker.ofByte byte with
    | .value datum => some (datum, bytes)
    | .unsigned form width =>
      (readNatural? width bytes).map fun (value, rest) => (.integer form value, rest)
    | .signed width =>
      (readNatural? width bytes).map fun (value, rest) =>
        (.integer .signed (toSigned width value), rest)
    | .single =>
      (readNatural? 4 bytes).map fun (value, rest) =>
        (.real (Binary64.ofBinary32 (UInt32.ofNat value)), rest)
    | .double =>
      (readNatural? 8 bytes).map fun (value, rest) => (.real ⟨UInt64.ofNat value⟩, rest)
    | .shortText length => readText? length bytes
    | .text width => (readNatural? width bytes).bind fun (length, rest) => readText? length rest
    | .bytes width =>
      (readNatural? width bytes).bind fun (length, behind) =>
        (take? length behind).map fun (front, rest) => (.bytes front, rest)
    | .shortList length => readList? depth (readValue? depth) length bytes
    | .list width =>
      (readNatural? width bytes).bind fun (length, rest) =>
        readList? depth (readValue? depth) length rest
    | .shortMap length => readMap? depth (readValue? depth) length bytes
    | .map width =>
      (readNatural? width bytes).bind fun (length, rest) =>
        readMap? depth (readValue? depth) length rest
    | .shortExtension length => readExtension? depth length bytes
    | .extension width =>
      (readNatural? width bytes).bind fun (length, rest) => readExtension? depth length rest
    | .reserved => none

/-- The value at the front of the bytes; what follows it is not read. -/
def read? (bytes : List UInt8) : Option Datum := (readValue? maxDepth bytes).map (·.1)

end ShapeScene.MessagePack
