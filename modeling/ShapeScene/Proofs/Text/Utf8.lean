import ShapeScene.Text.Utf8

/-!
# Reading UTF-8 back

Both readers undo the writer: what they read from the bytes of a text is that text. The step of the
strict reader is followed through the four lengths that a character can have, where the gap of the
surrogates and the last plane are what keeps the second byte within its bounds. Bytes are in the
order of the characters they write, so that texts are sorted in one order only.
-/

namespace ShapeScene.Text

/-- A byte made of a number below 256 holds that number. -/
theorem toNat_ofNat_byte {value : Nat} (small : value < 256) :
    (UInt8.ofNat value).toNat = value := by
  simp only [UInt8.toNat_ofNat']
  omega

/-- No character is half of a surrogate pair. -/
theorem toNat_char_not_surrogate (char : Char) : char.toNat < 0xD800 ∨ 0xDFFF < char.toNat := by
  rcases char.valid with low | ⟨high, -⟩
  · exact .inl low
  · exact .inr high

/-- Characters end with the last plane. -/
theorem toNat_char_lt (char : Char) : char.toNat < 0x110000 := by
  rcases char.valid with low | ⟨-, high⟩
  · exact Nat.lt_trans low (by decide)
  · exact high

/-! ## The bytes of a character -/

/-- An ASCII character is one byte. -/
theorem utf8EncodeChar_one {char : Char} (small : char.toNat < 0x80) :
    String.utf8EncodeChar char = [UInt8.ofNat char.toNat] :=
  if_pos (show char.toNat ≤ 0x7f by omega)

/-- The bytes of a character of two bytes. -/
theorem utf8EncodeChar_two {char : Char} (low : 0x80 ≤ char.toNat) (high : char.toNat < 0x800) :
    String.utf8EncodeChar char =
      [UInt8.ofNat (char.toNat / 64 % 32 + 0xC0), UInt8.ofNat (char.toNat % 64 + 0x80)] := by
  simp only [Char.toNat] at *
  simp only [String.utf8EncodeChar]
  rw [if_neg (by omega), if_pos (by omega)]

/-- The bytes of a character of three bytes. -/
theorem utf8EncodeChar_three {char : Char} (low : 0x800 ≤ char.toNat)
    (high : char.toNat < 0x10000) :
    String.utf8EncodeChar char =
      [UInt8.ofNat (char.toNat / 4096 % 16 + 0xE0), UInt8.ofNat (char.toNat / 64 % 64 + 0x80),
        UInt8.ofNat (char.toNat % 64 + 0x80)] := by
  simp only [Char.toNat] at *
  simp only [String.utf8EncodeChar]
  rw [if_neg (by omega), if_neg (by omega), if_pos (by omega)]

/-- The bytes of a character of four bytes. -/
theorem utf8EncodeChar_four {char : Char} (low : 0x10000 ≤ char.toNat) :
    String.utf8EncodeChar char =
      [UInt8.ofNat (char.toNat / 262144 % 8 + 0xF0), UInt8.ofNat (char.toNat / 4096 % 64 + 0x80),
        UInt8.ofNat (char.toNat / 64 % 64 + 0x80), UInt8.ofNat (char.toNat % 64 + 0x80)] := by
  simp only [Char.toNat] at *
  simp only [String.utf8EncodeChar]
  rw [if_neg (by omega), if_neg (by omega), if_neg (by omega)]

/-- Of the bytes of a character only that of an ASCII character is below 0x80. -/
theorem toNat_of_mem_utf8EncodeChar {char : Char} {byte : UInt8}
    (member : byte ∈ String.utf8EncodeChar char) (small : byte.toNat < 0x80) :
    byte.toNat = char.toNat := by
  have last := toNat_char_lt char
  by_cases one : char.toNat < 0x80
  · rw [utf8EncodeChar_one one, List.mem_singleton] at member
    rw [member, toNat_ofNat_byte (by omega)]
  -- all bytes of a longer character are further up
  have high {value : Nat} (low : 0x80 ≤ value) (below : value < 0x100) :
      byte ≠ UInt8.ofNat value := by
    rintro rfl
    rw [toNat_ofNat_byte below] at small
    omega
  by_cases two : char.toNat < 0x800
  · rw [utf8EncodeChar_two (by omega) two] at member
    simp only [List.mem_cons, List.not_mem_nil, or_false] at member
    rcases member with same | same <;> exact absurd same (high (by omega) (by omega))
  by_cases three : char.toNat < 0x10000
  · rw [utf8EncodeChar_three (by omega) three] at member
    simp only [List.mem_cons, List.not_mem_nil, or_false] at member
    rcases member with same | same | same <;> exact absurd same (high (by omega) (by omega))
  · rw [utf8EncodeChar_four (by omega)] at member
    simp only [List.mem_cons, List.not_mem_nil, or_false] at member
    rcases member with same | same | same | same <;>
      exact absurd same (high (by omega) (by omega))

/-! ## One step of the reader -/

/-- A byte between the bounds is a continuation. -/
theorem isContinuation_of_le {low high : Nat} {byte : UInt8} (above : low ≤ byte.toNat)
    (below : byte.toNat ≤ high) : isContinuation low high byte = true := by
  simp [isContinuation, above, below]

/-- The bounds behind the lead byte of a character of three bytes. -/
theorem secondByteBounds_three {lead : Nat} (below : lead < 0xF0) :
    secondByteBounds lead =
      (if lead = 0xE0 then 0xA0 else 0x80, if lead = 0xED then 0x9F else 0xBF) := by
  unfold secondByteBounds
  split
  · subst lead
    rfl
  · split
    · rfl
    · rw [if_neg (by omega), if_neg (by omega)]

/-- The bounds behind the lead byte of a character of four bytes. -/
theorem secondByteBounds_four {lead : Nat} (above : 0xF0 ≤ lead) :
    secondByteBounds lead =
      (if lead = 0xF0 then 0x90 else 0x80, if lead = 0xF4 then 0x8F else 0xBF) := by
  unfold secondByteBounds
  rw [if_neg (by omega), if_neg (by omega)]
  split
  · subst lead
    rfl
  · split <;> rfl

/-- The reader takes the bytes of a character as that character, whatever follows them. -/
theorem utf8Step_encode (char : Char) (rest : List UInt8) :
    ∃ first tail, String.utf8EncodeChar char = first :: tail ∧
      utf8Step first (tail ++ rest) = .char char tail.length := by
  have gap := toNat_char_not_surrogate char
  have last := toNat_char_lt char
  have back : Char.ofNat char.toNat = char := Char.ofNat_toNat char
  have lastByte := toNat_ofNat_byte (show char.toNat % 64 + 0x80 < 256 by omega)
  have further : isContinuation 0x80 0xBF (UInt8.ofNat (char.toNat % 64 + 0x80)) = true :=
    isContinuation_of_le (by omega) (by omega)
  by_cases one : char.toNat < 0x80
  · refine ⟨_, [], utf8EncodeChar_one one, ?_⟩
    simp [utf8Step, toNat_ofNat_byte (show char.toNat < 256 by omega), one, back]
  by_cases two : char.toNat < 0x800
  · refine ⟨_, [_], utf8EncodeChar_two (by omega) two, ?_⟩
    have lead := toNat_ofNat_byte (show char.toNat / 64 % 32 + 0xC0 < 256 by omega)
    have value : (char.toNat / 64 % 32 + 0xC0) % 32 * 64 + (char.toNat % 64 + 0x80) % 64 =
        char.toNat := by omega
    simp only [utf8Step, lead, lastByte, further, continuationBits, List.cons_append,
      List.nil_append, value, back]
    rw [if_neg (by omega), if_neg (by omega), if_pos (by omega)]
    rfl
  by_cases three : char.toNat < 0x10000
  · refine ⟨_, [_, _], utf8EncodeChar_three (by omega) three, ?_⟩
    have lead := toNat_ofNat_byte (show char.toNat / 4096 % 16 + 0xE0 < 256 by omega)
    have second := toNat_ofNat_byte (show char.toNat / 64 % 64 + 0x80 < 256 by omega)
    have bounds := secondByteBounds_three (show char.toNat / 4096 % 16 + 0xE0 < 0xF0 by omega)
    have within : isContinuation (if char.toNat / 4096 % 16 + 0xE0 = 0xE0 then 0xA0 else 0x80)
        (if char.toNat / 4096 % 16 + 0xE0 = 0xED then 0x9F else 0xBF)
        (UInt8.ofNat (char.toNat / 64 % 64 + 0x80)) = true :=
      isContinuation_of_le (by rw [second]; split <;> omega) (by rw [second]; split <;> omega)
    have value : ((char.toNat / 4096 % 16 + 0xE0) % 16 * 64 +
        (char.toNat / 64 % 64 + 0x80) % 64) * 64 + (char.toNat % 64 + 0x80) % 64 =
        char.toNat := by omega
    simp only [utf8Step, lead, bounds, within, further, List.cons_append, List.nil_append]
    rw [if_neg (by omega), if_neg (by omega), if_neg (by omega), if_pos (by omega)]
    simp only [continuationBits, second, lastByte, value, back]
    simp
  · refine ⟨_, [_, _, _], utf8EncodeChar_four (by omega), ?_⟩
    have lead := toNat_ofNat_byte (show char.toNat / 262144 % 8 + 0xF0 < 256 by omega)
    have second := toNat_ofNat_byte (show char.toNat / 4096 % 64 + 0x80 < 256 by omega)
    have third := toNat_ofNat_byte (show char.toNat / 64 % 64 + 0x80 < 256 by omega)
    have bounds := secondByteBounds_four (show 0xF0 ≤ char.toNat / 262144 % 8 + 0xF0 by omega)
    have within : isContinuation (if char.toNat / 262144 % 8 + 0xF0 = 0xF0 then 0x90 else 0x80)
        (if char.toNat / 262144 % 8 + 0xF0 = 0xF4 then 0x8F else 0xBF)
        (UInt8.ofNat (char.toNat / 4096 % 64 + 0x80)) = true :=
      isContinuation_of_le (by rw [second]; split <;> omega) (by rw [second]; split <;> omega)
    have between : isContinuation 0x80 0xBF (UInt8.ofNat (char.toNat / 64 % 64 + 0x80)) = true :=
      isContinuation_of_le (by omega) (by omega)
    have value : (((char.toNat / 262144 % 8 + 0xF0) % 8 * 64 +
        (char.toNat / 4096 % 64 + 0x80) % 64) * 64 + (char.toNat / 64 % 64 + 0x80) % 64) * 64 +
        (char.toNat % 64 + 0x80) % 64 = char.toNat := by omega
    simp only [utf8Step, lead, bounds, within, between, further, List.cons_append,
      List.nil_append]
    rw [if_neg (by omega), if_neg (by omega), if_neg (by omega), if_neg (by omega),
      if_pos (by omega)]
    simp only [continuationBits, second, third, lastByte, value, back]
    simp

/-! ## Whole texts -/

/-- The bytes of a text made of characters. -/
theorem utf8_ofList (chars : List Char) :
    utf8 (String.ofList chars) = chars.flatMap String.utf8EncodeChar := by
  simp [utf8]

/-- ASCII characters have one byte each. -/
theorem flatMap_utf8EncodeChar_ascii {chars : List Char}
    (ascii : ∀ char ∈ chars, char.toNat < 0x80) :
    chars.flatMap String.utf8EncodeChar = chars.map fun char => UInt8.ofNat char.toNat := by
  induction chars with
  | nil => rfl
  | cons char chars ih =>
    obtain ⟨first, others⟩ := List.forall_mem_cons.mp ascii
    rw [List.flatMap_cons, utf8EncodeChar_one first, ih others, List.map_cons]
    rfl

/-- Bytes that belong to the last character are passed. -/
theorem readUtf8After_append (passed rest : List UInt8) :
    readUtf8After passed.length (passed ++ rest) = readUtf8After 0 rest := by
  induction passed with
  | nil => rfl
  | cons byte passed ih => simpa [readUtf8After] using ih

/-- The reader takes the bytes of characters as those characters. -/
theorem readUtf8After_encode (chars : List Char) :
    readUtf8After 0 (chars.flatMap String.utf8EncodeChar) = some chars := by
  induction chars with
  | nil => rfl
  | cons char chars ih =>
    obtain ⟨first, tail, bytes, step⟩ :=
      utf8Step_encode char (chars.flatMap String.utf8EncodeChar)
    rw [List.flatMap_cons, bytes, List.cons_append, readUtf8After, step]
    simp only [readUtf8After_append, ih, Option.map_some]

/-- Reading the bytes of a text gives the text. -/
theorem readUtf8?_utf8 (text : String) : readUtf8? (utf8 text) = some text := by
  simp [readUtf8?, utf8, readUtf8After_encode]

/-- Texts with the same bytes are the same text. -/
theorem utf8_injective {first second : String} (same : utf8 first = utf8 second) :
    first = second := by
  have read := congrArg readUtf8? same
  simpa [readUtf8?_utf8] using read

/-! ## The order of texts -/

/-- Bytes that begin with a lower byte are before others. -/
theorem ofNat_cons_lt {low high : Nat} (below : low < high) (byte : high < 256)
    (first second : List UInt8) : UInt8.ofNat low :: first < UInt8.ofNat high :: second := by
  rw [List.cons_lt_cons_iff, UInt8.lt_iff_toNat_lt, toNat_ofNat_byte byte,
    toNat_ofNat_byte (Nat.lt_trans below byte)]
  exact .inl below

/-- Behind equal first bytes, or a lower one, bytes are in the order of the others. -/
theorem ofNat_cons_lt_of_le {low high : Nat} (below : low ≤ high) (byte : high < 256)
    {first second : List UInt8} (behind : low = high → first < second) :
    UInt8.ofNat low :: first < UInt8.ofNat high :: second := by
  rcases Nat.lt_or_eq_of_le below with lower | same
  · exact ofNat_cons_lt lower byte first second
  · rw [List.cons_lt_cons_iff, same]
    exact .inr ⟨rfl, behind same⟩

/-- The bytes of a lower character are before those of a higher one, whatever follows. -/
theorem utf8EncodeChar_append_lt {low high : Char} (below : low < high)
    (first second : List UInt8) :
    String.utf8EncodeChar low ++ first < String.utf8EncodeChar high ++ second := by
  have last := toNat_char_lt high
  replace below : low.toNat < high.toNat := below
  by_cases one : high.toNat < 0x80
  · rw [utf8EncodeChar_one (by omega), utf8EncodeChar_one one]
    exact ofNat_cons_lt below (by omega) _ _
  by_cases two : high.toNat < 0x800
  · rw [utf8EncodeChar_two (by omega) two]
    by_cases shorter : low.toNat < 0x80
    · rw [utf8EncodeChar_one shorter]
      exact ofNat_cons_lt (by omega) (by omega) _ _
    · rw [utf8EncodeChar_two (by omega) (by omega)]
      refine ofNat_cons_lt_of_le (by omega) (by omega) fun _ => ?_
      exact ofNat_cons_lt (by omega) (by omega) _ _
  by_cases three : high.toNat < 0x10000
  · rw [utf8EncodeChar_three (by omega) three]
    by_cases shortest : low.toNat < 0x80
    · rw [utf8EncodeChar_one shortest]
      exact ofNat_cons_lt (by omega) (by omega) _ _
    by_cases shorter : low.toNat < 0x800
    · rw [utf8EncodeChar_two (by omega) shorter]
      exact ofNat_cons_lt (by omega) (by omega) _ _
    · rw [utf8EncodeChar_three (by omega) (by omega)]
      refine ofNat_cons_lt_of_le (by omega) (by omega) fun _ => ?_
      refine ofNat_cons_lt_of_le (by omega) (by omega) fun _ => ?_
      exact ofNat_cons_lt (by omega) (by omega) _ _
  · have four : 0x10000 ≤ high.toNat := by omega
    rw [utf8EncodeChar_four four]
    by_cases shortest : low.toNat < 0x80
    · rw [utf8EncodeChar_one shortest]
      exact ofNat_cons_lt (by omega) (by omega) _ _
    by_cases shorter : low.toNat < 0x800
    · rw [utf8EncodeChar_two (by omega) shorter]
      exact ofNat_cons_lt (by omega) (by omega) _ _
    by_cases short : low.toNat < 0x10000
    · rw [utf8EncodeChar_three (by omega) short]
      exact ofNat_cons_lt (by omega) (by omega) _ _
    · rw [utf8EncodeChar_four (by omega)]
      refine ofNat_cons_lt_of_le (by omega) (by omega) fun _ => ?_
      refine ofNat_cons_lt_of_le (by omega) (by omega) fun _ => ?_
      refine ofNat_cons_lt_of_le (by omega) (by omega) fun _ => ?_
      exact ofNat_cons_lt (by omega) (by omega) _ _

/-- The bytes of characters have the order of the characters. -/
theorem flatMap_utf8EncodeChar_lt {first second : List Char} (below : first < second) :
    first.flatMap String.utf8EncodeChar < second.flatMap String.utf8EncodeChar := by
  induction below with
  | @nil char rest =>
    obtain ⟨lead, tail, bytes, -⟩ := utf8Step_encode char []
    rw [List.flatMap_nil, List.flatMap_cons, bytes]
    exact List.Lex.nil
  | @cons char first second _ ih =>
    rw [List.flatMap_cons, List.flatMap_cons]
    exact List.append_left_lt ih
  | @rel low first high second lower =>
    rw [List.flatMap_cons, List.flatMap_cons]
    exact utf8EncodeChar_append_lt lower _ _

/-- Texts have the order of their bytes. -/
theorem utf8_lt {first second : String} (below : first < second) : utf8 first < utf8 second :=
  flatMap_utf8EncodeChar_lt (String.lt_iff.mp below)

/-! ## The lenient reader -/

/-- The lenient reader reads what the strict one can read as the strict one does. -/
theorem readUtf8LenientAfter_eq {skip : Nat} {bytes : List UInt8} {chars : List Char}
    (read : readUtf8After skip bytes = some chars) : readUtf8LenientAfter skip bytes = chars := by
  induction bytes generalizing skip chars with
  | nil =>
    cases skip <;> exact Option.some.inj read
  | cons byte rest ih =>
    cases skip with
    | succ skip => exact ih read
    | zero =>
      simp only [readUtf8After, readUtf8LenientAfter] at read ⊢
      cases step : utf8Step byte rest with
      | malformed further => simp [step] at read
      | char value further =>
        simp only [step, Option.map_eq_some_iff] at read
        obtain ⟨others, behind, rfl⟩ := read
        exact congrArg (value :: ·) (ih behind)

/-- Reading the bytes of a text leniently gives the text. -/
theorem readUtf8Lenient_utf8 (text : String) : readUtf8Lenient (utf8 text) = text := by
  have chars := readUtf8LenientAfter_eq (readUtf8After_encode text.toList)
  rw [readUtf8Lenient, utf8, chars, String.ofList_toList]

/-- Bytes do not hold more characters than there are bytes. -/
theorem length_readUtf8LenientAfter_le (skip : Nat) (bytes : List UInt8) :
    (readUtf8LenientAfter skip bytes).length ≤ bytes.length := by
  induction bytes generalizing skip with
  | nil => cases skip <;> exact Nat.le_refl 0
  | cons byte rest ih =>
    cases skip with
    | succ skip => exact Nat.le_succ_of_le (ih skip)
    | zero =>
      simp only [readUtf8LenientAfter]
      cases utf8Step byte rest with
      | char value further => exact Nat.succ_le_succ (ih further)
      | malformed further => exact Nat.succ_le_succ (ih further)

/-! ## Bytes that are read as ASCII -/

/-- The code of a character that is made from a code between the surrogates and the last plane, or
below them. -/
theorem toNat_ofNat_char {code : Nat} (valid : code.isValidChar) :
    (Char.ofNat code).toNat = code := by
  rw [Char.ofNat, dif_pos valid]
  rfl

/-- A byte below 0x80 is read as a character by itself. -/
theorem utf8Step_ascii {first : UInt8} (small : first.toNat < 0x80) (rest : List UInt8) :
    utf8Step first rest = .char (Char.ofNat first.toNat) 0 := by
  simp only [utf8Step, if_pos small]

/-- A continuation lies within its bounds. -/
theorem le_of_isContinuation {low high : Nat} {byte : UInt8}
    (within : isContinuation low high byte = true) : low ≤ byte.toNat ∧ byte.toNat ≤ high := by
  simpa [isContinuation] using within

/-- The bounds for a second byte keep a character of three bytes above those of two bytes and away
from the surrogates. -/
theorem isValidChar_three {lead second : Nat} (third : Nat) (above : 0xE0 ≤ lead) (below : lead < 0xF0)
    (low : (secondByteBounds lead).1 ≤ second) (high : second ≤ (secondByteBounds lead).2) :
    ((lead % 16 * 64 + second % 64) * 64 + third % 64).isValidChar ∧
      0x80 ≤ (lead % 16 * 64 + second % 64) * 64 + third % 64 := by
  rw [secondByteBounds_three below] at low high
  simp only at low high
  refine ⟨?_, ?_⟩
  · by_cases surrogates : lead = 0xED
    · subst lead
      rw [if_pos rfl] at high
      rw [if_neg (by decide)] at low
      exact .inl (by omega)
    · rw [if_neg surrogates] at high
      split at low <;>
      · by_cases lower : lead < 0xED
        · exact .inl (by omega)
        · exact .inr (by omega)
  · by_cases short : lead = 0xE0
    · rw [if_pos short] at low
      split at high <;> omega
    · split at low <;> split at high <;> omega

/-- The bounds for a second byte keep a character of four bytes within the planes. -/
theorem isValidChar_four {lead second : Nat} (third fourth : Nat)
    (above : 0xF0 ≤ lead) (below : lead < 0xF5) (low : (secondByteBounds lead).1 ≤ second)
    (high : second ≤ (secondByteBounds lead).2) :
    (((lead % 8 * 64 + second % 64) * 64 + third % 64) * 64 + fourth % 64).isValidChar ∧
      0x80 ≤ ((lead % 8 * 64 + second % 64) * 64 + third % 64) * 64 + fourth % 64 := by
  rw [secondByteBounds_four above] at low high
  simp only at low high
  refine ⟨.inr ?_, ?_⟩ <;> split at low <;> split at high <;> omega

/-- A byte from 0x80 on begins no character of ASCII. -/
theorem le_toNat_of_utf8Step {first : UInt8} (large : 0x80 ≤ first.toNat) {rest : List UInt8}
    {value : Char} {further : Nat} (step : utf8Step first rest = .char value further) :
    0x80 ≤ value.toNat := by
  simp only [utf8Step] at step
  rw [if_neg (by omega)] at step
  split at step
  · cases step
  split at step
  · split at step
    · split at step
      · obtain ⟨rfl, -⟩ := Utf8Step.char.inj step
        rw [continuationBits, toNat_ofNat_char (.inl (by omega))]
        omega
      · cases step
    · cases step
  split at step
  · split at step
    · split at step
      · cases step
      · split at step
        · cases step
        · rename_i second third others within _
          obtain ⟨rfl, -⟩ := Utf8Step.char.inj step
          simp only [Bool.not_eq_true', Bool.not_eq_false] at within
          have bounds := le_of_isContinuation within
          have valid := isValidChar_three third.toNat (by omega) (by omega) bounds.1 bounds.2
          rw [continuationBits, continuationBits, toNat_ofNat_char valid.1]
          exact valid.2
    · split at step <;> cases step
    · cases step
  split at step
  · split at step
    · split at step
      · cases step
      · split at step
        · cases step
        · split at step
          · cases step
          · rename_i second third fourth others within _ _
            obtain ⟨rfl, -⟩ := Utf8Step.char.inj step
            simp only [Bool.not_eq_true', Bool.not_eq_false] at within
            have bounds := le_of_isContinuation within
            have valid := isValidChar_four third.toNat fourth.toNat (by omega) (by omega)
              bounds.1 bounds.2
            rw [continuationBits, continuationBits, continuationBits, toNat_ofNat_char valid.1]
            exact valid.2
    · split at step
      · cases step
      · split at step <;> cases step
    · split at step <;> cases step
    · cases step
  · cases step

/-- Bytes that are read leniently as characters of ASCII are these characters' own. -/
theorem eq_map_of_readUtf8LenientAfter {bytes : List UInt8}
    (ascii : ∀ char ∈ readUtf8LenientAfter 0 bytes, char.toNat < 0x80) :
    bytes = (readUtf8LenientAfter 0 bytes).map fun char => UInt8.ofNat char.toNat := by
  induction bytes with
  | nil => rfl
  | cons first rest ih =>
    by_cases small : first.toNat < 0x80
    · have code : (Char.ofNat first.toNat).toNat = first.toNat :=
        toNat_ofNat_char (.inl (by omega))
      simp only [readUtf8LenientAfter, utf8Step_ascii small, List.forall_mem_cons,
        List.map_cons, code, UInt8.ofNat_toNat] at ascii ⊢
      rw [← ih ascii.2]
    · simp only [readUtf8LenientAfter] at ascii
      cases step : utf8Step first rest with
      | char value further =>
        rw [step] at ascii
        have large := le_toNat_of_utf8Step (Nat.le_of_not_lt small) step
        have inside := ascii value List.mem_cons_self
        omega
      | malformed further =>
        rw [step] at ascii
        exact absurd (ascii '\uFFFD' List.mem_cons_self) (by decide)

/-- A text of ASCII that bytes are read as leniently has these bytes. -/
theorem utf8_readUtf8Lenient {bytes : List UInt8}
    (ascii : ∀ char ∈ (readUtf8Lenient bytes).toList, char.toNat < 0x80) :
    utf8 (readUtf8Lenient bytes) = bytes := by
  rw [readUtf8Lenient, String.toList_ofList] at ascii
  rw [readUtf8Lenient, utf8_ofList, flatMap_utf8EncodeChar_ascii ascii,
    ← eq_map_of_readUtf8LenientAfter ascii]

end ShapeScene.Text
