import ShapeScene.Data.Json.Number
import ShapeScene.Text.Character

/-!
# Reading JSON

The reader accepts exactly the grammar of JSON with any bytes inside strings, and gives every
well-formed part its value where it has one. Parts nested more than 127 levels deep have none.
-/

namespace ShapeScene.Json

/-- The greatest number of levels at which a part still has a value. -/
def maxLevels : Nat := 127

/-- White space between tokens. -/
def isSpace (byte : UInt8) : Bool := byte == 0x20 || byte == 0x0A || byte == 0x0D || byte == 0x09

/-- The bytes behind leading white space. -/
def skipSpace (bytes : List UInt8) : List UInt8 := bytes.dropWhile isSpace

/-- Whether a byte is a decimal digit. -/
def isDigitByte (byte : UInt8) : Bool := 0x30 ≤ byte && byte ≤ 0x39

/-- The values of the digits in front, and the bytes behind them. -/
def readDigits (bytes : List UInt8) : List Nat × List UInt8 :=
  ((bytes.takeWhile isDigitByte).map fun byte => byte.toNat - 0x30, bytes.dropWhile isDigitByte)

/-- The digits before the point: a single zero, or digits that begin with another one. -/
def readWhole? (bytes : List UInt8) : Option (List Nat × List UInt8) :=
  match readDigits bytes with
  | ([], _) => none
  | (0 :: _ :: _, _) => none
  | (digits, rest) => some (digits, rest)

/-- The digits after a point, if there is one; then there is at least one digit. -/
def readFraction? : List UInt8 → Option (List Nat × List UInt8)
  | 0x2E :: bytes =>
    match readDigits bytes with
    | ([], _) => none
    | (digits, rest) => some (digits, rest)
  | bytes => some ([], bytes)

/-- Whether an exponent has a minus sign, and the bytes behind the sign. -/
def readExponentSign : List UInt8 → Bool × List UInt8
  | 0x2B :: bytes => (false, bytes)
  | 0x2D :: bytes => (true, bytes)
  | bytes => (false, bytes)

/-- The exponent of a number whose other parts are read. -/
def readExponent? (token : NumberToken) : List UInt8 → Option (NumberToken × List UInt8)
  | [] => some (token, [])
  | byte :: bytes =>
    if byte = 0x65 ∨ byte = 0x45 then
      let (negative, behind) := readExponentSign bytes
      match readDigits behind with
      | ([], _) => none
      | (digits, rest) =>
        some ({ token with hasExponent := true, exponentNegative := negative, exponent := digits },
          rest)
    else some (token, byte :: bytes)

/-- The number without its sign at the front of the bytes. -/
def readMagnitude? (negative : Bool) (bytes : List UInt8) : Option (Datum × List UInt8) := do
  let (whole, afterWhole) ← readWhole? bytes
  let (fraction, afterFraction) ← readFraction? afterWhole
  let (token, rest) ← readExponent? ⟨negative, whole, fraction, false, false, []⟩ afterFraction
  some (token.value, rest)

/-- A unit of a string: a byte that stands for itself, or a code unit written as an escape. -/
inductive StringUnit where
  /-- A byte of the text. -/
  | byte (value : UInt8)
  /-- A code unit of sixteen bits. -/
  | code (value : Nat)
deriving DecidableEq, Repr

/-- The value of four hexadecimal digits. -/
def readCode? (a b c d : UInt8) : Option Nat := do
  let hex (byte : UInt8) : Option Nat := Text.hexValue? (Char.ofNat byte.toNat)
  some ((((← hex a) * 16 + (← hex b)) * 16 + (← hex c)) * 16 + (← hex d))

/-- The byte that a letter stands for after a backslash. -/
def escapedByte? (letter : UInt8) : Option UInt8 :=
  if letter = 0x22 ∨ letter = 0x5C ∨ letter = 0x2F then some letter
  else if letter = 0x62 then some 0x08
  else if letter = 0x66 then some 0x0C
  else if letter = 0x6E then some 0x0A
  else if letter = 0x72 then some 0x0D
  else if letter = 0x74 then some 0x09
  else none

/-- The units of a string behind its opening quote, and the bytes behind its closing quote. -/
def readUnits? : List UInt8 → Option (List StringUnit × List UInt8)
  | [] => none
  | 0x22 :: rest => some ([], rest)
  | 0x5C :: 0x75 :: a :: b :: c :: d :: rest =>
    match readCode? a b c d, readUnits? rest with
    | some code, some (units, behind) => some (.code code :: units, behind)
    | _, _ => none
  | 0x5C :: letter :: rest =>
    match escapedByte? letter, readUnits? rest with
    | some byte, some (units, behind) => some (.byte byte :: units, behind)
    | _, _ => none
  | byte :: rest =>
    if byte < 0x20 ∨ byte = 0x5C then none
    else (readUnits? rest).map fun (units, behind) => (.byte byte :: units, behind)

/-- Whether a code unit is the first half of a character. -/
def isHighSurrogate (code : Nat) : Bool := 0xD800 ≤ code && code < 0xDC00

/-- Whether a code unit is the second half of a character. -/
def isLowSurrogate (code : Nat) : Bool := 0xDC00 ≤ code && code < 0xE000

/-- The bytes of a string; none when half a character stands alone. -/
def unitBytes? : List StringUnit → Option (List UInt8)
  | [] => some []
  | .byte value :: units => (unitBytes? units).map (value :: ·)
  | .code high :: .code low :: units =>
    if isHighSurrogate high then
      if isLowSurrogate low then
        (unitBytes? units).map
          (String.utf8EncodeChar
            (Char.ofNat (0x10000 + (high - 0xD800) * 1024 + (low - 0xDC00))) ++ ·)
      else none
    else if isLowSurrogate high then none
    else (unitBytes? (.code low :: units)).map (String.utf8EncodeChar (Char.ofNat high) ++ ·)
  | .code code :: units =>
    if isHighSurrogate code || isLowSurrogate code then none
    else (unitBytes? units).map (String.utf8EncodeChar (Char.ofNat code) ++ ·)

/-- The value of a string. -/
def stringValue (units : List StringUnit) : Datum :=
  match (unitBytes? units).bind Text.readUtf8? with
  | some text => .text text
  | none => .unreadable

/-- A string behind its opening quote. -/
def readString? (bytes : List UInt8) : Option (Datum × List UInt8) :=
  (readUnits? bytes).map fun (units, rest) => (stringValue units, rest)

/-- The bytes behind a word, if it stands at their front. -/
def behindWord? (word : String) (bytes : List UInt8) : Option (List UInt8) :=
  if (Text.utf8 word).isPrefixOf bytes then some (bytes.drop (Text.utf8 word).length) else none

/-- Items up to a closing byte, with commas between them; at most `bound` items. -/
def readItems? {α : Type} (close : UInt8) (read : List UInt8 → Option (α × List UInt8)) :
    (bound : Nat) → List UInt8 → Option (List α × List UInt8)
  | 0, _ => none
  | bound + 1, bytes =>
    match read bytes with
    | none => none
    | some (item, behind) =>
      match skipSpace behind with
      | [] => none
      | byte :: rest =>
        if byte = close then some ([item], rest)
        else if byte = 0x2C then
          (readItems? close read bound rest).map fun (items, last) => (item :: items, last)
        else none

/-- A sequence of at most `bound` items behind its opening byte. -/
def readSequence? {α : Type} (close : UInt8) (read : List UInt8 → Option (α × List UInt8))
    (bound : Nat) (bytes : List UInt8) : Option (List α × List UInt8) :=
  match skipSpace bytes with
  | [] => none
  | byte :: rest =>
    if byte = close then some ([], rest) else readItems? close read bound (byte :: rest)

/-- A key with its value. -/
def readMember? (read : List UInt8 → Option (Datum × List UInt8)) (bytes : List UInt8) :
    Option ((Datum × Datum) × List UInt8) :=
  match skipSpace bytes with
  | 0x22 :: behindQuote => do
    let (key, behindKey) ← readString? behindQuote
    match skipSpace behindKey with
    | 0x3A :: behindColon => do
      let (value, rest) ← read behindColon
      some ((key, value), rest)
    | _ => none
  | _ => none

/-- A value that stands inside others: it has no value of its own below the last level. -/
def atLevel (levels : Nat) (datum : Datum) : Datum :=
  match levels with
  | 0 => .unreadable
  | _ + 1 => datum

/-- The value at the front of the bytes, after white space. Values nest at most `depth` times and
hold at most so many items, which every value does that is shorter than `depth`; `levels` counts
the levels that still have a value. -/
def readValue? : (depth levels : Nat) → List UInt8 → Option (Datum × List UInt8)
  | 0, _, _ => none
  | depth + 1, levels, bytes =>
    match skipSpace bytes with
    | [] => none
    | byte :: rest =>
      if byte = 0x22 then readString? rest
      else if byte = 0x5B then
        (readSequence? 0x5D (readValue? depth (levels - 1)) depth rest).map fun (items, behind) =>
          (atLevel levels (.list items), behind)
      else if byte = 0x7B then
        (readSequence? 0x7D (readMember? (readValue? depth (levels - 1))) depth rest).map
          fun (entries, behind) => (atLevel levels (.map entries), behind)
      else if byte = 0x2D then readMagnitude? true rest
      else if isDigitByte byte then readMagnitude? false (byte :: rest)
      else if byte = 0x6E then (behindWord? "ull" rest).map fun behind => (.null, behind)
      else if byte = 0x74 then (behindWord? "rue" rest).map fun behind => (.bool true, behind)
      else if byte = 0x66 then (behindWord? "alse" rest).map fun behind => (.bool false, behind)
      else none

/-- The value that a list of bytes writes, with nothing but white space around it. -/
def read? (bytes : List UInt8) : Option Datum :=
  match readValue? (bytes.length + 1) maxLevels bytes with
  | some (datum, rest) => if (skipSpace rest).isEmpty then some datum else none
  | none => none

end ShapeScene.Json
