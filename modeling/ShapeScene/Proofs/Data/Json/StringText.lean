import ShapeScene.Data.Json.Printer
import ShapeScene.Data.Json.Reader
import ShapeScene.Proofs.Text.Utf8

/-!
# Texts read back from JSON

Each character of a text is written as one group of units, and the reader takes the groups apart
again one character at a time: a control without a short escape is a code unit, and every other
character is the bytes of its UTF-8 form, escaped or not.
-/

namespace ShapeScene.Json

/-- Whether a character is written as its code. -/
def isWrittenAsCode (char : Char) : Bool :=
  char.toNat < 0x20 && char != '\n' && char != '\r' && char != '\t' && char != '\x08' &&
    char != '\x0c'

/-- The units that a written character is read as. -/
def charUnits (char : Char) : List StringUnit :=
  if isWrittenAsCode char then [.code char.toNat]
  else (String.utf8EncodeChar char).map .byte

/-- The byte behind the backslash of an escaped character. -/
def escapeLetter (char : Char) : UInt8 := UInt8.ofNat ((escapedChar char).getD 1 ' ').toNat

/-- Whether a byte stands for itself in a string. -/
def IsPlainByte (byte : UInt8) : Prop := 0x20 ≤ byte.toNat ∧ byte ≠ 0x22 ∧ byte ≠ 0x5C

/-! ## Units of a character -/

/-- A byte that stands for itself is read as itself. -/
theorem readUnits?_plain {byte : UInt8} (plain : IsPlainByte byte) (rest : List UInt8) :
    readUnits? (byte :: rest) =
      (readUnits? rest).map fun (units, behind) => (.byte byte :: units, behind) := by
  obtain ⟨high, noQuote, noEscape⟩ := plain
  have printable : ¬(byte < 0x20 ∨ byte = 0x5C) := by
    rintro (control | escape)
    · rw [UInt8.lt_iff_toNat_lt] at control
      exact absurd high (Nat.not_le_of_lt control)
    · exact noEscape escape
  rw [readUnits?]
  · rw [if_neg printable]
  · exact noQuote
  · exact fun _ _ _ _ _ escape => absurd escape noEscape
  · exact fun _ _ escape => absurd escape noEscape

/-- Bytes that stand for themselves are read as themselves. -/
theorem readUnits?_plains {bytes : List UInt8} (plain : ∀ byte ∈ bytes, IsPlainByte byte)
    (rest : List UInt8) :
    readUnits? (bytes ++ rest) =
      (readUnits? rest).map fun (units, behind) => (bytes.map .byte ++ units, behind) := by
  induction bytes with
  | nil => simp
  | cons byte bytes ih =>
    obtain ⟨first, others⟩ := List.forall_mem_cons.mp plain
    rw [List.cons_append, readUnits?_plain first, ih others, Option.map_map]
    rfl

/-- The bytes of a character that is not escaped stand for themselves. -/
theorem isPlainByte_of_mem {char : Char} (printable : 0x20 ≤ char.toNat) (noQuote : char ≠ '"')
    (noEscape : char ≠ '\\') : ∀ byte ∈ String.utf8EncodeChar char, IsPlainByte byte := by
  intro byte member
  have code := Text.toNat_of_mem_utf8EncodeChar member
  have other {special : Char} (differs : char ≠ special) : char.toNat ≠ special.toNat :=
    fun same => differs (Char.toNat_inj.mp same)
  have quote := other noQuote
  have escape := other noEscape
  simp only [IsPlainByte, ne_eq, ← UInt8.toNat_inj, Char.reduceToNat, UInt8.reduceToNat] at *
  by_cases small : byte.toNat < 0x80
  · rw [code small]
    exact ⟨printable, quote, escape⟩
  · omega

/-- A control without a short escape is read as its code. -/
theorem readUnits?_code {code : Nat} (control : code < 0x20) (rest : List UInt8) :
    readUnits? (['\\', 'u', '0', '0', Text.hexDigit (code / 16),
        Text.hexDigit (code % 16)].flatMap String.utf8EncodeChar ++ rest) =
      (readUnits? rest).map fun (units, behind) => (.code code :: units, behind) := by
  have all : ∀ code < 0x20,
      ['\\', 'u', '0', '0', Text.hexDigit (code / 16),
        Text.hexDigit (code % 16)].flatMap String.utf8EncodeChar =
          [0x5C, 0x75, 0x30, 0x30, UInt8.ofNat (Text.hexDigit (code / 16)).toNat,
            UInt8.ofNat (Text.hexDigit (code % 16)).toNat] ∧
        readCode? 0x30 0x30 (UInt8.ofNat (Text.hexDigit (code / 16)).toNat)
          (UInt8.ofNat (Text.hexDigit (code % 16)).toNat) = some code := by decide
  obtain ⟨bytes, value⟩ := all code control
  rw [bytes]
  simp only [List.cons_append, List.nil_append, readUnits?, value]
  cases readUnits? rest <;> rfl

/-- An escaped byte other than a code is read as what it stands for. -/
theorem readUnits?_escape {letter byte : UInt8} (escape : escapedByte? letter = some byte)
    (rest : List UInt8) :
    readUnits? (0x5C :: letter :: rest) =
      (readUnits? rest).map fun (units, behind) => (.byte byte :: units, behind) := by
  rw [readUnits?, escape]
  · cases readUnits? rest <;> rfl
  · rintro a b c d rest rfl
    simp [escapedByte?] at escape

/-- A written character is read as its units. -/
theorem readUnits?_escapedChar (char : Char) (rest : List UInt8) :
    readUnits? ((escapedChar char).flatMap String.utf8EncodeChar ++ rest) =
      (readUnits? rest).map fun (units, behind) => (charUnits char ++ units, behind) := by
  have short : ∀ letter ∈ ['"', '\\', '\n', '\r', '\t', '\x08', '\x0c'],
      (escapedChar letter).flatMap String.utf8EncodeChar = [0x5C, escapeLetter letter] ∧
        escapedByte? (escapeLetter letter) = some (UInt8.ofNat letter.toNat) ∧
        charUnits letter = [.byte (UInt8.ofNat letter.toNat)] := by
    simp only [List.forall_mem_cons, List.not_mem_nil, false_implies, implies_true, and_true]
    decide
  by_cases escape : char ∈ ['"', '\\', '\n', '\r', '\t', '\x08', '\x0c']
  · obtain ⟨bytes, meaning, units⟩ := short char escape
    rw [bytes, units]
    exact readUnits?_escape meaning rest
  · simp only [List.mem_cons, List.not_mem_nil, or_false, not_or] at escape
    obtain ⟨noQuote, noEscape, noLine, noReturn, noTab, noBack, noFeed⟩ := escape
    by_cases control : char.toNat < 0x20
    · have asCode : isWrittenAsCode char = true := by
        simp [isWrittenAsCode, control, noLine, noReturn, noTab, noBack, noFeed]
      simp only [escapedChar, charUnits, noQuote, noEscape, noLine, noReturn, noTab, noBack,
        noFeed, control, asCode, if_true, if_false]
      exact readUnits?_code control rest
    · have asBytes : isWrittenAsCode char = false := by simp [isWrittenAsCode, control]
      have plain := isPlainByte_of_mem (by omega) noQuote noEscape
      simp only [escapedChar, charUnits, noQuote, noEscape, noLine, noReturn, noTab, noBack,
        noFeed, control, asBytes, Bool.false_eq_true, if_false, List.flatMap_cons,
        List.flatMap_nil, List.append_nil]
      exact readUnits?_plains plain rest

/-! ## Bytes of units -/

/-- A code below the surrogates is a character by itself. -/
theorem unitBytes?_code {code : Nat} (small : code < 0x20) (units : List StringUnit) :
    unitBytes? (.code code :: units) =
      (unitBytes? units).map (String.utf8EncodeChar (Char.ofNat code) ++ ·) := by
  have noHigh : isHighSurrogate code = false := by
    simp only [isHighSurrogate, Bool.and_eq_false_iff, decide_eq_false_iff_not]
    omega
  have noLow : isLowSurrogate code = false := by
    simp only [isLowSurrogate, Bool.and_eq_false_iff, decide_eq_false_iff_not]
    omega
  cases units with
  | nil => simp [unitBytes?, noHigh, noLow]
  | cons unit units => cases unit <;> simp [unitBytes?, noHigh, noLow]

/-- Units that are bytes stand for those bytes. -/
theorem unitBytes?_bytes (bytes : List UInt8) (units : List StringUnit) :
    unitBytes? (bytes.map .byte ++ units) = (unitBytes? units).map (bytes ++ ·) := by
  induction bytes with
  | nil => simp
  | cons byte bytes ih =>
    rw [List.map_cons, List.cons_append, unitBytes?, ih, Option.map_map]
    rfl

/-- The units of a character stand for its bytes. -/
theorem unitBytes?_charUnits (char : Char) (units : List StringUnit) :
    unitBytes? (charUnits char ++ units) =
      (unitBytes? units).map (String.utf8EncodeChar char ++ ·) := by
  unfold charUnits
  split
  · rename_i asCode
    have control : char.toNat < 0x20 := by
      simp only [isWrittenAsCode, Bool.and_eq_true, decide_eq_true_eq] at asCode
      exact asCode.1.1.1.1.1
    have code := unitBytes?_code control units
    rwa [Char.ofNat_toNat] at code
  · exact unitBytes?_bytes _ units

/-! ## Texts -/

/-- The units of a written text, up to the closing quote. -/
theorem readUnits?_escaped (chars : List Char) (rest : List UInt8) :
    readUnits? ((chars.flatMap escapedChar).flatMap String.utf8EncodeChar ++ 0x22 :: rest) =
      some (chars.flatMap charUnits, rest) := by
  induction chars with
  | nil => simp [readUnits?]
  | cons char chars ih =>
    simp only [List.flatMap_cons, List.flatMap_append, List.append_assoc]
    rw [readUnits?_escapedChar, ih]
    rfl

/-- The units of a written text stand for its bytes. -/
theorem unitBytes?_written (chars : List Char) :
    unitBytes? (chars.flatMap charUnits) = some (chars.flatMap String.utf8EncodeChar) := by
  induction chars with
  | nil => rfl
  | cons char chars ih =>
    rw [List.flatMap_cons, unitBytes?_charUnits, ih]
    rfl

/-- A written text is read back behind its opening quote, whatever follows. -/
theorem readString?_escaped (text : String) (rest : List UInt8) :
    readString? ((text.toList.flatMap escapedChar).flatMap String.utf8EncodeChar ++
      0x22 :: rest) = some (.text text, rest) := by
  have value : stringValue (text.toList.flatMap charUnits) = .text text := by
    have read := Text.readUtf8?_utf8 text
    rw [Text.utf8] at read
    simp [stringValue, unitBytes?_written, read]
  rw [readString?, readUnits?_escaped, Option.map_some]
  exact congrArg (fun datum => some (datum, rest)) value

/-- The bytes of a written text. -/
theorem encode_stringText (text : String) :
    (stringText text).flatMap String.utf8EncodeChar =
      0x22 :: ((text.toList.flatMap escapedChar).flatMap String.utf8EncodeChar ++ [0x22]) := by
  have quote : String.utf8EncodeChar '"' = [0x22] := by decide
  simp [stringText, quote]

/-- A written text is read in its place. -/
theorem readValue?_stringText (text : String) (depth levels : Nat) (rest : List UInt8) :
    readValue? (depth + 1) levels ((stringText text).flatMap String.utf8EncodeChar ++ rest) =
      some (.text text, rest) := by
  have read := readString?_escaped text rest
  rw [encode_stringText, List.cons_append, List.append_assoc]
  simpa [readValue?, skipSpace, isSpace] using read

end ShapeScene.Json
