import ShapeScene.Color
import ShapeScene.Proofs.Text.Utf8
import ShapeScene.Text.Natural

/-!
# The short form of a color

A short form is six hexadecimal digits with a number sign in front of them or none. The reader takes
two characters at a time for a number, and a number may have a plus sign in front, so that it reads a
little more than short forms: pairs of a plus sign and one digit, too. What it has read is written
again in lowercase digits. The places at which it cuts the bytes of a text never lie inside a
character.
-/

namespace ShapeScene

namespace Text

/-! ## Hexadecimal digits -/

/-- The hexadecimal digits in either letter case. -/
def isHexDigit (char : Char) : Bool :=
  ('0' ≤ char && char ≤ '9') || ('a' ≤ char && char ≤ 'f') || ('A' ≤ char && char ≤ 'F')

/-- Hexadecimal digits are those characters that have a value. -/
theorem isSome_hexValue? (char : Char) : (hexValue? char).isSome = isHexDigit char := by
  unfold hexValue? isHexDigit
  split
  · simp_all
  · split
    · simp_all
    · split <;> simp_all

/-- Hexadecimal digits are ASCII characters. -/
theorem toNat_lt_of_isHexDigit {char : Char} (digit : isHexDigit char = true) :
    char.toNat < 0x80 := by
  simp only [isHexDigit, Bool.or_eq_true, Bool.and_eq_true, decide_eq_true_eq, Char.le_def,
    UInt32.le_iff_toNat_le] at digit
  have last : 'F'.val.toNat < 0x80 ∧ 'f'.val.toNat < 0x80 ∧ '9'.val.toNat < 0x80 := by decide
  rw [← Char.toNat_val]
  omega

/-- The value of a digit is below sixteen, and written again it is the digit in lowercase. -/
theorem hexDigit_hexValue? {char : Char} {value : Nat} (read : hexValue? char = some value) :
    value < 16 ∧ hexDigit value = char.toLower := by
  have checked : ∀ code < 0x80, ∀ value ∈ hexValue? (Char.ofNat code),
      value < 16 ∧ hexDigit value = (Char.ofNat code).toLower := by decide
  have digit : isHexDigit char = true := by
    rw [← isSome_hexValue?, read]
    rfl
  have := checked char.toNat (toNat_lt_of_isHexDigit digit) value
  rw [Char.ofNat_toNat] at this
  exact this read

/-! ## Cutting text between bytes -/

/-- The characters in front of a place and those behind it. Places are counted in bytes; there is
none inside a character or behind the text. -/
def splitBytes? : (place : Nat) → List Char → Option (List Char × List Char)
  | 0, chars => some ([], chars)
  | _ + 1, [] => none
  | place + 1, char :: chars =>
    if char.utf8Size ≤ place + 1 then
      (splitBytes? (place + 1 - char.utf8Size) chars).map fun (front, behind) =>
        (char :: front, behind)
    else none

/-- The characters between two places. -/
def slice? (chars : List Char) (start stop : Nat) : Option (List Char) := do
  let (front, _) ← splitBytes? stop chars
  let (_, part) ← splitBytes? start front
  some part

/-- The number below 256 that hexadecimal digits write, behind a plus sign or alone. -/
def readHexByte? (chars : List Char) : Option Nat :=
  match dropPlus chars with
  | [] => none
  | digits => do
    let values ← digits.mapM hexValue?
    let value := values.foldl (fun value digit => value * 16 + digit) 0
    if value < 256 then some value else none

end Text

namespace Rgb

open Text

/-! ## Levels -/

/-- A level is found again from its channel. -/
theorem level_ofLevel {value : Nat} (small : value < 256) : level (ofLevel value) = value := by
  have checked : ∀ value < 256, level (ofLevel value) = value := by decide +kernel
  exact checked value small

/-- Two characters that are read as a level: two digits, or a plus sign and a digit. -/
structure IsPair (first second : Char) : Prop where
  /-- A digit or a plus sign stands in front. -/
  first : isHexDigit first = true ∨ first = '+'
  /-- A digit stands behind. -/
  second : isHexDigit second = true

/-- How a character that was read is written again: digits in lowercase, and the place of a plus
sign is filled with a zero. -/
def spelled (char : Char) : Char := if char = '+' then '0' else char.toLower

/-- A digit is written in lowercase. -/
theorem spelled_of_isHexDigit {char : Char} (digit : isHexDigit char = true) :
    spelled char = char.toLower := by
  rw [spelled, if_neg]
  rintro rfl
  exact absurd digit (by decide)

/-- A level is read from a pair, and its digits are those of the pair. -/
theorem IsPair.readLevel? {first second : Char} (isPair : IsPair first second) :
    ∃ value < 256, Rgb.readLevel? first second = some value ∧
      levelDigits value = [spelled first, spelled second] := by
  have value : ∀ {char}, isHexDigit char = true → ∃ digit, hexValue? char = some digit :=
    fun digit => Option.isSome_iff_exists.mp ((isSome_hexValue? _).trans digit)
  obtain ⟨low, lowRead⟩ := value isPair.second
  obtain ⟨lowSmall, lowDigit⟩ := hexDigit_hexValue? lowRead
  rw [Rgb.readLevel?, lowRead, spelled_of_isHexDigit isPair.second]
  rcases isPair.first with digit | rfl
  · obtain ⟨high, highRead⟩ := value digit
    obtain ⟨highSmall, highDigit⟩ := hexDigit_hexValue? highRead
    have unsigned : first ≠ '+' := by
      rintro rfl
      exact absurd digit (by decide)
    refine ⟨high * 16 + low, by omega, ?_, ?_⟩
    · rw [highRead]
      exact if_neg unsigned
    · rw [levelDigits, show (high * 16 + low) / 16 = high by omega,
        show (high * 16 + low) % 16 = low by omega, lowDigit, highDigit,
        spelled_of_isHexDigit digit]
  · refine ⟨low, by omega, rfl, ?_⟩
    rw [levelDigits, Nat.div_eq_of_lt lowSmall, Nat.mod_eq_of_lt lowSmall, lowDigit]
    rfl

/-- Nothing but pairs is read as a level. -/
theorem isPair_of_readLevel? {first second : Char} {value : Nat}
    (read : Rgb.readLevel? first second = some value) : IsPair first second := by
  have digit : ∀ {char digit}, hexValue? char = some digit → isHexDigit char = true := by
    intro char digit read
    rw [← isSome_hexValue?, read]
    rfl
  rw [Rgb.readLevel?] at read
  cases lowRead : hexValue? second with
  | none =>
    rw [lowRead] at read
    cases read
  | some low =>
    rw [lowRead] at read
    refine ⟨?_, digit lowRead⟩
    by_cases signed : first = '+'
    · exact .inr signed
    · simp only [if_neg signed, Option.map_eq_some_iff] at read
      obtain ⟨high, highRead, -⟩ := read
      exact .inl (digit highRead)

/-! ## Forms -/

/-- The characters behind one number sign, if there is one. -/
def dropMark : List Char → List Char
  | '#' :: rest => rest
  | chars => chars

/-- The short forms: six hexadecimal digits, behind a number sign or alone. -/
def IsShortForm (text : String) : Prop :=
  ∃ digits, digits.length = 6 ∧ (∀ digit ∈ digits, isHexDigit digit = true) ∧
    (text.toList = digits ∨ text.toList = '#' :: digits)

/-- The forms that are read: three pairs, behind a number sign or alone. -/
def IsPairForm (text : String) : Prop :=
  ∃ r₁ r₂ g₁ g₂ b₁ b₂, IsPair r₁ r₂ ∧ IsPair g₁ g₂ ∧ IsPair b₁ b₂ ∧
    (text.toList = [r₁, r₂, g₁, g₂, b₁, b₂] ∨ text.toList = ['#', r₁, r₂, g₁, g₂, b₁, b₂])

/-- The characters in front of which a number sign is dropped. -/
theorem dropMark_eq_iff {chars digits : List Char} (unmarked : digits.head? ≠ some '#') :
    dropMark chars = digits ↔ chars = digits ∨ chars = '#' :: digits := by
  constructor
  · rintro rfl
    unfold dropMark
    split
    · exact .inr rfl
    · exact .inl rfl
  · rintro (rfl | rfl)
    · unfold dropMark
      split
      · exact absurd rfl unmarked
      · rfl
    · rfl

/-- A number sign is not in a pair. -/
theorem IsPair.first_ne {first second : Char} (isPair : IsPair first second) : first ≠ '#' := by
  rintro rfl
  exact absurd isPair.first (by decide)

/-- Pair forms are three pairs once a number sign is dropped. -/
theorem isPairForm_iff (text : String) :
    IsPairForm text ↔ ∃ r₁ r₂ g₁ g₂ b₁ b₂, IsPair r₁ r₂ ∧ IsPair g₁ g₂ ∧ IsPair b₁ b₂ ∧
      dropMark text.toList = [r₁, r₂, g₁, g₂, b₁, b₂] := by
  have dropped : ∀ {r₁ r₂ g₁ g₂ b₁ b₂}, IsPair r₁ r₂ →
      (dropMark text.toList = [r₁, r₂, g₁, g₂, b₁, b₂] ↔
        text.toList = [r₁, r₂, g₁, g₂, b₁, b₂] ∨
          text.toList = ['#', r₁, r₂, g₁, g₂, b₁, b₂]) := fun red =>
    dropMark_eq_iff fun marked => red.first_ne (Option.some.inj marked)
  constructor
  · rintro ⟨r₁, r₂, g₁, g₂, b₁, b₂, red, green, blue, form⟩
    exact ⟨r₁, r₂, g₁, g₂, b₁, b₂, red, green, blue, (dropped red).mpr form⟩
  · rintro ⟨r₁, r₂, g₁, g₂, b₁, b₂, red, green, blue, form⟩
    exact ⟨r₁, r₂, g₁, g₂, b₁, b₂, red, green, blue, (dropped red).mp form⟩

/-- A color is read from what is behind the number sign. -/
theorem ofHex?_eq (text : String) :
    ofHex? text =
      match dropMark text.toList with
      | [r₁, r₂, g₁, g₂, b₁, b₂] => do
        let red ← Rgb.readLevel? r₁ r₂
        let green ← Rgb.readLevel? g₁ g₂
        let blue ← Rgb.readLevel? b₁ b₂
        some ⟨ofLevel red, ofLevel green, ofLevel blue⟩
      | _ => none := by
  rfl

/-- A pair form is read, and what was read is written in its digits. -/
theorem IsPairForm.exists_color {text : String} (isPairForm : IsPairForm text) :
    ∃ color, ofHex? text = some color ∧
      color.toHex = String.ofList ('#' :: (dropMark text.toList).map spelled) := by
  obtain ⟨r₁, r₂, g₁, g₂, b₁, b₂, red, green, blue, form⟩ := (isPairForm_iff text).mp isPairForm
  obtain ⟨redLevel, redSmall, redRead, redDigits⟩ := red.readLevel?
  obtain ⟨greenLevel, greenSmall, greenRead, greenDigits⟩ := green.readLevel?
  obtain ⟨blueLevel, blueSmall, blueRead, blueDigits⟩ := blue.readLevel?
  refine ⟨⟨ofLevel redLevel, ofLevel greenLevel, ofLevel blueLevel⟩, ?_, ?_⟩
  · rw [ofHex?_eq, form]
    simp only [redRead, greenRead, blueRead, Option.bind_eq_bind, Option.bind_some]
  · rw [toHex, level_ofLevel redSmall, level_ofLevel greenSmall, level_ofLevel blueSmall,
      redDigits, greenDigits, blueDigits, form]
    rfl

/-- Nothing but pair forms is read. -/
theorem isPairForm_of_ofHex? {text : String} {color : Rgb} (read : ofHex? text = some color) :
    IsPairForm text := by
  rw [ofHex?_eq] at read
  split at read
  · rename_i r₁ r₂ g₁ g₂ b₁ b₂ form
    simp only [Option.bind_eq_bind, Option.bind_eq_some_iff] at read
    obtain ⟨red, redRead, green, greenRead, blue, blueRead, -⟩ := read
    exact (isPairForm_iff text).mpr ⟨r₁, r₂, g₁, g₂, b₁, b₂, isPair_of_readLevel? redRead,
      isPair_of_readLevel? greenRead, isPair_of_readLevel? blueRead, form⟩
  · cases read

/-- Short forms are the pair forms without a plus sign. -/
theorem isShortForm_iff (text : String) :
    IsShortForm text ↔ IsPairForm text ∧ '+' ∉ text.toList := by
  constructor
  · rintro ⟨digits, six, all, form⟩
    have unsigned : '+' ∉ digits := fun member => absurd (all '+' member) (by decide)
    obtain ⟨r₁, r₂, g₁, g₂, b₁, b₂, rfl⟩ : ∃ r₁ r₂ g₁ g₂ b₁ b₂,
        digits = [r₁, r₂, g₁, g₂, b₁, b₂] := by
      match digits, six with
      | [r₁, r₂, g₁, g₂, b₁, b₂], _ => exact ⟨r₁, r₂, g₁, g₂, b₁, b₂, rfl⟩
    simp only [List.forall_mem_cons] at all
    obtain ⟨red, redBehind, green, greenBehind, blue, blueBehind, -⟩ := all
    refine ⟨⟨r₁, r₂, g₁, g₂, b₁, b₂, ⟨.inl red, redBehind⟩, ⟨.inl green, greenBehind⟩,
      ⟨.inl blue, blueBehind⟩, form⟩, ?_⟩
    rcases form with alone | marked
    · rwa [alone]
    · rw [marked, List.mem_cons, not_or]
      exact ⟨by decide, unsigned⟩
  · rintro ⟨⟨r₁, r₂, g₁, g₂, b₁, b₂, red, green, blue, form⟩, unsigned⟩
    have unsigned : '+' ∉ [r₁, r₂, g₁, g₂, b₁, b₂] := by
      rcases form with alone | marked
      · rwa [alone] at unsigned
      · rw [marked, List.mem_cons, not_or] at unsigned
        exact unsigned.2
    have digit : ∀ {first second}, IsPair first second → first ∈ [r₁, r₂, g₁, g₂, b₁, b₂] →
        isHexDigit first = true := by
      intro first second isPair member
      refine isPair.first.resolve_right ?_
      rintro rfl
      exact unsigned member
    refine ⟨_, rfl, ?_, form⟩
    simp only [List.forall_mem_cons]
    exact ⟨digit red (by simp), red.second, digit green (by simp), green.second,
      digit blue (by simp), blue.second, nofun⟩

/-! ## Cuts -/

/-- A channel that is read from the two bytes behind a place, if the bytes can be cut out. -/
def channelAt? (digits : List Char) (place : Nat) : Option (Option Binary64) :=
  (slice? digits place (place + 2)).map fun part => (readHexByte? part).map ofLevel

/-- The color of a short form whose digits are counted and cut in bytes. There is no answer at all
when a cut would lie inside a character or behind the text. -/
def ofHexByCuts? (text : String) : Option (Option Rgb) :=
  let digits := dropMark text.toList
  if (utf8 (String.ofList digits)).length != 6 || !digits.all (fun char => char.toNat < 0x80) then
    some none
  else do
    let some red ← channelAt? digits 0 | some none
    let some green ← channelAt? digits 2 | some none
    let some blue ← channelAt? digits 4 | some none
    some (some ⟨red, green, blue⟩)

/-- ASCII characters have as many bytes as there are of them. -/
theorem length_utf8_ascii {chars : List Char} (ascii : ∀ char ∈ chars, char.toNat < 0x80) :
    (utf8 (String.ofList chars)).length = chars.length := by
  rw [utf8_ofList, flatMap_utf8EncodeChar_ascii ascii, List.length_map]

/-- Characters of one byte are cut where they are counted. -/
theorem splitBytes?_append {front : List Char} (ascii : ∀ char ∈ front, char.toNat < 0x80)
    (behind : List Char) : splitBytes? front.length (front ++ behind) = some (front, behind) := by
  induction front with
  | nil => cases behind <;> rfl
  | cons char front ih =>
    obtain ⟨first, others⟩ := List.forall_mem_cons.mp ascii
    have single : char.utf8Size = 1 := by
      rw [Char.utf8Size, if_pos]
      exact UInt32.le_iff_toNat_le.mpr (Nat.le_of_lt_succ first)
    rw [List.length_cons, List.cons_append, splitBytes?, single, if_pos (by omega),
      Nat.add_sub_cancel, ih others]
    rfl

/-- The characters between two others are cut out when all of them have one byte. -/
theorem slice?_append {front part : List Char} (frontAscii : ∀ char ∈ front, char.toNat < 0x80)
    (partAscii : ∀ char ∈ part, char.toNat < 0x80) (behind : List Char) :
    slice? (front ++ part ++ behind) front.length (front ++ part).length = some part := by
  have ascii : ∀ char ∈ front ++ part, char.toNat < 0x80 := by
    intro char member
    exact (List.mem_append.mp member).elim (frontAscii char) (partAscii char)
  rw [slice?, splitBytes?_append ascii]
  simp only [Option.bind_eq_bind, Option.bind_some, splitBytes?_append frontAscii]

/-- Two characters are read as a number as they are read as a level. -/
theorem readHexByte?_pair (first second : Char) :
    readHexByte? [first, second] = Rgb.readLevel? first second := by
  have small : ∀ {char value}, hexValue? char = some value → value < 16 :=
    fun read => (hexDigit_hexValue? read).1
  rw [readHexByte?, Rgb.readLevel?]
  by_cases signed : first = '+'
  · subst signed
    simp only [dropPlus, List.mapM_cons, List.mapM_nil]
    cases read : hexValue? second with
    | none => rfl
    | some low =>
      have := small read
      simp [show low < 256 by omega]
  · have unsigned : dropPlus [first, second] = [first, second] := by
      unfold dropPlus
      split
      · rename_i same
        exact absurd (List.cons.inj same).1 signed
      · rfl
    rw [unsigned]
    simp only [List.mapM_cons, List.mapM_nil, if_neg signed]
    cases highRead : hexValue? first with
    | none => cases hexValue? second <;> rfl
    | some high =>
      cases lowRead : hexValue? second with
      | none => rfl
      | some low =>
        have := small highRead
        have := small lowRead
        simp [show high * 16 + low < 256 by omega]

/-- A channel is read from two characters that were cut out. -/
theorem channelAt?_append (front : List Char) {first second : Char} (behind : List Char)
    (ascii : ∀ char ∈ front ++ [first, second], char.toNat < 0x80) :
    channelAt? (front ++ [first, second] ++ behind) front.length =
      some ((Rgb.readLevel? first second).map ofLevel) := by
  have part := slice?_append (fun char member => ascii char (List.mem_append_left _ member))
    (fun char member => ascii char (List.mem_append_right _ member)) behind
  rw [List.length_append] at part
  rw [channelAt?, show front.length + 2 = front.length + [first, second].length from rfl, part,
    Option.map_some, readHexByte?_pair]

/-- Pair forms have ASCII characters only, six of them behind the number sign. -/
theorem IsPairForm.ascii {text : String} (isPairForm : IsPairForm text) :
    (dropMark text.toList).length = 6 ∧ ∀ char ∈ dropMark text.toList, char.toNat < 0x80 := by
  obtain ⟨r₁, r₂, g₁, g₂, b₁, b₂, red, green, blue, form⟩ := (isPairForm_iff text).mp isPairForm
  have front : ∀ {first second}, IsPair first second → first.toNat < 0x80 := by
    intro first second isPair
    rcases isPair.first with digit | rfl
    · exact toNat_lt_of_isHexDigit digit
    · decide
  have behind : ∀ {first second}, IsPair first second → second.toNat < 0x80 :=
    fun isPair => toNat_lt_of_isHexDigit isPair.second
  rw [form]
  refine ⟨rfl, ?_⟩
  simp only [List.forall_mem_cons]
  exact ⟨front red, behind red, front green, behind green, front blue, behind blue, nofun⟩

/-- Every cut is made between characters, and what is read is the same. -/
theorem ofHexByCuts?_eq (text : String) : ofHexByCuts? text = some (ofHex? text) := by
  rw [ofHexByCuts?]
  split
  · rename_i refused
    cases read : ofHex? text with
    | none => rfl
    | some color =>
      obtain ⟨six, ascii⟩ := (isPairForm_of_ofHex? read).ascii
      rw [length_utf8_ascii ascii, six, List.all_eq_true.mpr (by simpa using ascii)] at refused
      cases refused
  · rename_i accepted
    obtain ⟨six, ascii⟩ : (utf8 (String.ofList (dropMark text.toList))).length = 6 ∧
        ∀ char ∈ dropMark text.toList, char.toNat < 0x80 := by
      simpa using accepted
    rw [length_utf8_ascii ascii] at six
    rw [ofHex?_eq]
    match form : dropMark text.toList, six with
    | [r₁, r₂, g₁, g₂, b₁, b₂], _ =>
      rw [form] at ascii
      have upTo : ∀ {front behind : List Char}, [r₁, r₂, g₁, g₂, b₁, b₂] = front ++ behind →
          ∀ char ∈ front, char.toNat < 0x80 := by
        intro front behind divided char member
        exact ascii char (divided ▸ List.mem_append_left _ member)
      have red : channelAt? [r₁, r₂, g₁, g₂, b₁, b₂] 0 = _ :=
        channelAt?_append [] [g₁, g₂, b₁, b₂] (upTo rfl)
      have green : channelAt? [r₁, r₂, g₁, g₂, b₁, b₂] 2 = _ :=
        channelAt?_append [r₁, r₂] [b₁, b₂] (upTo rfl)
      have blue : channelAt? [r₁, r₂, g₁, g₂, b₁, b₂] 4 = _ :=
        channelAt?_append [r₁, r₂, g₁, g₂] [] (upTo rfl)
      simp only [red, green, blue]
      cases Rgb.readLevel? r₁ r₂ <;> cases Rgb.readLevel? g₁ g₂ <;>
        cases Rgb.readLevel? b₁ b₂ <;> rfl

/-! ## What is read -/

/-- A color is read from three pairs, behind a number sign or alone, and from no other text, without
a cut inside a character. So of the texts that are read the short forms are those without a plus
sign. The color is written again in the characters it was read from, digits in lowercase and a zero
in the place of a plus sign. -/
theorem ofHex?_reads_pairs (text : String) :
    ((ofHex? text).isSome ↔ IsPairForm text) ∧
      (IsShortForm text ↔ (ofHex? text).isSome ∧ '+' ∉ text.toList) ∧
      (∀ color, ofHex? text = some color →
        color.toHex = String.ofList ('#' :: (dropMark text.toList).map spelled)) ∧
      ofHexByCuts? text = some (ofHex? text) := by
  have reads : (ofHex? text).isSome ↔ IsPairForm text := by
    rw [Option.isSome_iff_exists]
    constructor
    · rintro ⟨color, read⟩
      exact isPairForm_of_ofHex? read
    · intro isPairForm
      obtain ⟨color, read, -⟩ := isPairForm.exists_color
      exact ⟨color, read⟩
  refine ⟨reads, ?_, ?_, ofHexByCuts?_eq text⟩
  · rw [isShortForm_iff, reads]
  · intro color read
    obtain ⟨other, otherRead, written⟩ := (isPairForm_of_ofHex? read).exists_color
    rw [read] at otherRead
    rwa [← Option.some.inj otherRead] at written

/-- A text that is read, but is no short form. -/
example : ofHex? "+1+2+3" = ofHex? "#010203" ∧ (ofHex? "+1+2+3").isSome := by decide +kernel

end Rgb

end ShapeScene
