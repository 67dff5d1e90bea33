/-!
# Text as bytes

The UTF-8 form of a text, its strict reading, and a lenient reading that puts one replacement
character for each maximal run of bytes that could have begun a character.
-/

namespace ShapeScene.Text

/-- The bytes of a text. -/
def utf8 (text : String) : List UInt8 := text.toList.flatMap String.utf8EncodeChar

/-- What stands at the front of a list of bytes: a character with its length, or the length of a
malformed run. -/
inductive Utf8Step where
  /-- A character and the number of bytes after its first. -/
  | char (value : Char) (further : Nat)
  /-- The number of bytes after the first that belong to a malformed run. -/
  | malformed (further : Nat)

/-- Whether a byte continues a character within the given bounds. -/
def isContinuation (low high : Nat) (byte : UInt8) : Bool :=
  low ≤ byte.toNat && byte.toNat ≤ high

/-- Least and greatest second byte that may follow a lead byte of three or four byte forms; the
bounds exclude overlong forms, surrogates and code points above U+10FFFF. -/
def secondByteBounds (lead : Nat) : Nat × Nat :=
  if lead = 0xE0 then (0xA0, 0xBF)
  else if lead = 0xED then (0x80, 0x9F)
  else if lead = 0xF0 then (0x90, 0xBF)
  else if lead = 0xF4 then (0x80, 0x8F)
  else (0x80, 0xBF)

/-- The low six bits of a continuation byte. -/
def continuationBits (byte : UInt8) : Nat := byte.toNat % 64

/-- Read the front of the bytes `first :: rest`. -/
def utf8Step (first : UInt8) (rest : List UInt8) : Utf8Step :=
  let lead := first.toNat
  let (low, high) := secondByteBounds lead
  if lead < 0x80 then .char (Char.ofNat lead) 0
  else if lead < 0xC2 then .malformed 0
  else if lead < 0xE0 then
    match rest with
    | second :: _ =>
      if isContinuation 0x80 0xBF second then
        .char (Char.ofNat (lead % 32 * 64 + continuationBits second)) 1
      else .malformed 0
    | [] => .malformed 0
  else if lead < 0xF0 then
    match rest with
    | second :: third :: _ =>
      if !isContinuation low high second then .malformed 0
      else if !isContinuation 0x80 0xBF third then .malformed 1
      else .char (Char.ofNat
        ((lead % 16 * 64 + continuationBits second) * 64 + continuationBits third)) 2
    | [second] => if isContinuation low high second then .malformed 1 else .malformed 0
    | [] => .malformed 0
  else if lead < 0xF5 then
    match rest with
    | second :: third :: fourth :: _ =>
      if !isContinuation low high second then .malformed 0
      else if !isContinuation 0x80 0xBF third then .malformed 1
      else if !isContinuation 0x80 0xBF fourth then .malformed 2
      else .char (Char.ofNat
        (((lead % 8 * 64 + continuationBits second) * 64 + continuationBits third) * 64 +
          continuationBits fourth)) 3
    | [second, third] =>
      if !isContinuation low high second then .malformed 0
      else if !isContinuation 0x80 0xBF third then .malformed 1
      else .malformed 2
    | [second] => if isContinuation low high second then .malformed 1 else .malformed 0
    | [] => .malformed 0
  else .malformed 0

/-- Strict reading, passing the `skip` bytes that belong to the last character. -/
def readUtf8After : (skip : Nat) → List UInt8 → Option (List Char)
  | _, [] => some []
  | skip + 1, _ :: rest => readUtf8After skip rest
  | 0, first :: rest =>
    match utf8Step first rest with
    | .char value further => (readUtf8After further rest).map (value :: ·)
    | .malformed _ => none

/-- The text that a list of bytes is the UTF-8 form of, if it is one. -/
def readUtf8? (bytes : List UInt8) : Option String := (readUtf8After 0 bytes).map String.ofList

/-- Lenient reading, passing the `skip` bytes that belong to the last character. -/
def readUtf8LenientAfter : (skip : Nat) → List UInt8 → List Char
  | _, [] => []
  | skip + 1, _ :: rest => readUtf8LenientAfter skip rest
  | 0, first :: rest =>
    match utf8Step first rest with
    | .char value further => value :: readUtf8LenientAfter further rest
    | .malformed further => '\uFFFD' :: readUtf8LenientAfter further rest

/-- The text of a list of bytes, with a replacement character for each malformed run. -/
def readUtf8Lenient (bytes : List UInt8) : String :=
  String.ofList (readUtf8LenientAfter 0 bytes)

end ShapeScene.Text
