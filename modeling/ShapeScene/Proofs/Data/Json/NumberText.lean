import ShapeScene.Data.Fields
import ShapeScene.Data.Json.Printer
import ShapeScene.Data.Json.Reader
import ShapeScene.Proofs.Number.Shortest
import ShapeScene.Proofs.Text.Utf8

/-!
# Numbers read back from JSON

A number is written as the text of a token, and the reader finds that token again in front of
anything that does not continue a number. What the token is worth is the reader's own matter: an
integer that fits its word reads back as itself, and any other number as what two roundings make of
its digits.
-/

namespace ShapeScene.Json

/-! ## Digits -/

/-- The characters of a list of digits. -/
def digitChars (digits : List Nat) : List Char := digits.map Nat.digitChar

/-- Digits as a number has them before its point: a single zero, or no zero in front. -/
def Leads (digits : List Nat) : Prop :=
  digits = [0] ∨ ∃ first others, digits = first :: others ∧ first ≠ 0

/-- The number that a list of digits writes. -/
def digitsValue (digits : List Nat) : Nat := digits.foldl (fun value digit => value * 10 + digit) 0

/-- The byte of a digit. -/
theorem utf8EncodeChar_digitChar {digit : Nat} (small : digit < 10) :
    String.utf8EncodeChar digit.digitChar = [UInt8.ofNat (0x30 + digit)] := by
  have all : ∀ digit < 10,
      String.utf8EncodeChar digit.digitChar = [UInt8.ofNat (0x30 + digit)] := by decide
  exact all digit small

/-- The bytes of digits. -/
theorem encode_digitChars {digits : List Nat} (small : ∀ digit ∈ digits, digit < 10) :
    (digitChars digits).flatMap String.utf8EncodeChar =
      digits.map fun digit => UInt8.ofNat (0x30 + digit) := by
  induction digits with
  | nil => rfl
  | cons digit digits ih =>
    obtain ⟨first, others⟩ := List.forall_mem_cons.mp small
    simp only [digitChars, List.map_cons, List.flatMap_cons, utf8EncodeChar_digitChar first]
    exact congrArg _ (ih others)

/-- Every natural number is written with digits that are worth it. -/
theorem exists_digits (value : Nat) :
    ∃ digits, Nat.toDigits 10 value = digitChars digits ∧ (∀ digit ∈ digits, digit < 10) ∧
      Leads digits ∧ digitsValue digits = value ∧ (0 < value → digits ≠ [0]) := by
  induction value using Nat.strong_induction_on with
  | _ value ih =>
    by_cases single : value < 10
    · refine ⟨[value], ?_, by simpa using single, ?_, by simp [digitsValue], ?_⟩
      · rw [Nat.toDigits_of_lt_base single]
        rfl
      · by_cases zero : value = 0
        · exact .inl (by rw [zero])
        · exact .inr ⟨value, [], rfl, zero⟩
      · intro positive same
        simp only [List.cons.injEq, and_true] at same
        omega
    · obtain ⟨digits, text, small, leads, worth, notZero⟩ := ih (value / 10) (by omega)
      have split := Nat.toDigits_of_base_le (b := 10) (n := value) (by decide) (by omega)
      refine ⟨digits ++ [value % 10], ?_, ?_, ?_, ?_, ?_⟩
      · rw [split, text]
        simp [digitChars]
      · intro digit member
        rcases List.mem_append.mp member with front | last
        · exact small digit front
        · rw [List.mem_singleton.mp last]
          omega
      · rcases leads with zero | ⟨first, others, rfl, nonzero⟩
        · exact absurd zero (notZero (by omega))
        · exact .inr ⟨first, others ++ [value % 10], rfl, nonzero⟩
      · simp only [digitsValue, List.foldl_append, List.foldl_cons, List.foldl_nil]
        rw [show digits.foldl (fun value digit => value * 10 + digit) 0 = value / 10 from worth]
        omega
      · intro _ same
        rcases leads with rfl | ⟨first, others, rfl, -⟩ <;> simp at same

/-! ## The text of a token -/

namespace NumberToken

/-- The point and the digits behind it, if there are any. -/
def fractionChars (token : NumberToken) : List Char :=
  if token.fraction = [] then [] else '.' :: digitChars token.fraction

/-- The exponent with its mark and its sign, if there is one. -/
def exponentChars (token : NumberToken) : List Char :=
  if token.hasExponent then
    'e' :: (if token.exponentNegative then '-' else '+') :: digitChars token.exponent
  else []

/-- The text of a token without its sign. -/
def magnitudeChars (token : NumberToken) : List Char :=
  digitChars token.whole ++ token.fractionChars ++ token.exponentChars

/-- The text of a token. -/
def chars (token : NumberToken) : List Char :=
  (if token.negative then ['-'] else []) ++ token.magnitudeChars

/-- What a written token keeps to. -/
structure WellFormed (token : NumberToken) : Prop where
  /-- Every digit before the point is one. -/
  whole : ∀ digit ∈ token.whole, digit < 10
  /-- Every digit after the point is one. -/
  fraction : ∀ digit ∈ token.fraction, digit < 10
  /-- Every digit of the exponent is one. -/
  exponent : ∀ digit ∈ token.exponent, digit < 10
  /-- No zero stands in front of another digit. -/
  leads : Leads token.whole
  /-- An exponent has digits. -/
  exponent_ne_nil : token.hasExponent = true → token.exponent ≠ []
  /-- Without an exponent nothing is said about it. -/
  no_exponent : token.hasExponent = false →
    token.exponentNegative = false ∧ token.exponent = []

end NumberToken

/-- Bytes that do not continue a number: no digit, point or mark of an exponent comes first. -/
def StopsNumber (bytes : List UInt8) : Prop :=
  ∀ byte ∈ bytes.head?, isDigitByte byte = false ∧ byte ≠ 0x2E ∧ byte ≠ 0x65 ∧ byte ≠ 0x45

/-! ## Reading a token -/

/-- A digit's byte is read as a digit of its value. -/
theorem isDigitByte_ofNat {digit : Nat} (small : digit < 10) :
    isDigitByte (UInt8.ofNat (0x30 + digit)) = true ∧
      (UInt8.ofNat (0x30 + digit)).toNat - 0x30 = digit := by
  have all : ∀ digit < 10, isDigitByte (UInt8.ofNat (0x30 + digit)) = true ∧
      (UInt8.ofNat (0x30 + digit)).toNat - 0x30 = digit := by decide
  exact all digit small

/-- Digits are read up to the first byte that is none. -/
theorem readDigits_digitChars {digits : List Nat} (small : ∀ digit ∈ digits, digit < 10)
    {rest : List UInt8} (stops : ∀ byte ∈ rest.head?, isDigitByte byte = false) :
    readDigits ((digitChars digits).flatMap String.utf8EncodeChar ++ rest) = (digits, rest) := by
  have none : rest.takeWhile isDigitByte = [] ∧ rest.dropWhile isDigitByte = rest := by
    cases rest with
    | nil => simp
    | cons byte rest => simp [stops byte rfl]
  have bytes : ∀ byte ∈ digits.map fun digit => UInt8.ofNat (0x30 + digit),
      isDigitByte byte = true := by
    simp only [List.mem_map, forall_exists_index, and_imp, forall_apply_eq_imp_iff₂]
    exact fun digit member => (isDigitByte_ofNat (small digit member)).1
  have values : (digits.map fun digit => UInt8.ofNat (0x30 + digit)).map
      (fun byte => byte.toNat - 0x30) = digits := by
    rw [List.map_map]
    exact (List.map_congr_left fun digit member =>
      (isDigitByte_ofNat (small digit member)).2).trans (List.map_id' digits)
  rw [readDigits, encode_digitChars small, List.takeWhile_append_of_pos bytes,
    List.dropWhile_append_of_pos bytes, none.1, none.2, List.append_nil, values]

/-- The digits before the point are read back. -/
theorem readWhole?_digitChars {digits : List Nat} (small : ∀ digit ∈ digits, digit < 10)
    (leads : Leads digits) {rest : List UInt8}
    (stops : ∀ byte ∈ rest.head?, isDigitByte byte = false) :
    readWhole? ((digitChars digits).flatMap String.utf8EncodeChar ++ rest) =
      some (digits, rest) := by
  rw [readWhole?, readDigits_digitChars small stops]
  rcases leads with rfl | ⟨first, others, rfl, nonzero⟩
  · rfl
  · cases others <;> simp [nonzero]

/-- Bytes that do not begin with a point hold no fraction. -/
theorem readFraction?_of_ne {bytes : List UInt8} (noPoint : ∀ byte ∈ bytes.head?, byte ≠ 0x2E) :
    readFraction? bytes = some ([], bytes) := by
  unfold readFraction?
  split
  · exact absurd rfl (noPoint _ rfl)
  · rfl

/-- A fraction is read back. -/
theorem readFraction?_chars {token : NumberToken} (wellFormed : token.WellFormed)
    {rest : List UInt8} (stops : ∀ byte ∈ rest.head?, isDigitByte byte = false ∧ byte ≠ 0x2E) :
    readFraction? (token.fractionChars.flatMap String.utf8EncodeChar ++ rest) =
      some (token.fraction, rest) := by
  have small := wellFormed.fraction
  unfold NumberToken.fractionChars
  cases digits : token.fraction with
  | nil => exact readFraction?_of_ne fun byte first => (stops byte first).2
  | cons digit others =>
    have point : String.utf8EncodeChar '.' = [0x2E] := by decide
    have read := readDigits_digitChars (digits ▸ small) fun byte first => (stops byte first).1
    simp only [reduceCtorEq, if_false, List.flatMap_cons, point, List.cons_append,
      List.nil_append, readFraction?, read]

/-- An exponent is read back. -/
theorem readExponent?_chars {token : NumberToken} (wellFormed : token.WellFormed)
    {rest : List UInt8} (stops : StopsNumber rest) :
    readExponent? ⟨token.negative, token.whole, token.fraction, false, false, []⟩
      (token.exponentChars.flatMap String.utf8EncodeChar ++ rest) = some (token, rest) := by
  obtain ⟨negative, whole, fraction, hasExponent, exponentNegative, exponent⟩ := token
  cases hasExponent with
  | false =>
    obtain ⟨rfl, rfl⟩ := wellFormed.no_exponent rfl
    cases rest with
    | nil => rfl
    | cons byte rest =>
      obtain ⟨-, -, small, capital⟩ := stops byte rfl
      simp [NumberToken.exponentChars, readExponent?, small, capital]
  | true =>
    have some := wellFormed.exponent_ne_nil rfl
    have mark : String.utf8EncodeChar 'e' = [0x65] := by decide
    have plus : String.utf8EncodeChar '+' = [0x2B] := by decide
    have minus : String.utf8EncodeChar '-' = [0x2D] := by decide
    have read := readDigits_digitChars wellFormed.exponent fun byte first => (stops byte first).1
    cases exponentNegative <;>
      simp only [NumberToken.exponentChars, if_true, if_false, Bool.false_eq_true,
        List.flatMap_cons, mark, plus, minus, List.cons_append, List.nil_append, readExponent?,
        true_or, readExponentSign, read]

/-- What follows a fraction does not continue its digits. -/
theorem stops_behind_fraction (token : NumberToken) {rest : List UInt8}
    (stops : StopsNumber rest) :
    ∀ byte ∈ (token.exponentChars.flatMap String.utf8EncodeChar ++ rest).head?,
      isDigitByte byte = false ∧ byte ≠ 0x2E := by
  have mark : String.utf8EncodeChar 'e' = [0x65] := by decide
  intro byte first
  unfold NumberToken.exponentChars at first
  split at first
  · simp only [List.flatMap_cons, mark, List.cons_append, List.head?_cons,
      Option.mem_some_iff] at first
    subst first
    decide
  · exact ⟨(stops byte first).1, (stops byte first).2.1⟩

/-- What follows the digits before the point does not continue them. -/
theorem stops_behind_whole (token : NumberToken) {rest : List UInt8}
    (stops : ∀ byte ∈ rest.head?, isDigitByte byte = false) :
    ∀ byte ∈ (token.fractionChars.flatMap String.utf8EncodeChar ++ rest).head?,
      isDigitByte byte = false := by
  have point : String.utf8EncodeChar '.' = [0x2E] := by decide
  intro byte first
  unfold NumberToken.fractionChars at first
  split at first
  · exact stops byte first
  · simp only [List.flatMap_cons, point, List.cons_append, List.head?_cons,
      Option.mem_some_iff] at first
    subst first
    decide

/-- A written token is read back in front of what does not continue it. -/
theorem readMagnitude?_chars {token : NumberToken} (wellFormed : token.WellFormed)
    {rest : List UInt8} (stops : StopsNumber rest) :
    readMagnitude? token.negative
      (token.magnitudeChars.flatMap String.utf8EncodeChar ++ rest) = some (token.value, rest) := by
  have behindFraction := stops_behind_fraction token stops
  have behindWhole := stops_behind_whole token fun byte first => (behindFraction byte first).1
  simp only [NumberToken.magnitudeChars, List.flatMap_append, List.append_assoc, readMagnitude?,
    readWhole?_digitChars wellFormed.whole wellFormed.leads behindWhole,
    readFraction?_chars wellFormed behindFraction, readExponent?_chars wellFormed stops,
    Option.bind_eq_bind, Option.bind_some]

/-- The text of a token does not begin with white space, a bracket or a letter. -/
theorem magnitudeChars_head {token : NumberToken} (wellFormed : token.WellFormed) :
    ∃ digit others, digit < 10 ∧ token.magnitudeChars.flatMap String.utf8EncodeChar =
      UInt8.ofNat (0x30 + digit) :: others := by
  have small := wellFormed.whole
  obtain ⟨first, others, whole⟩ : ∃ first others, token.whole = first :: others := by
    rcases wellFormed.leads with zero | ⟨first, others, whole, -⟩
    · exact ⟨0, [], zero⟩
    · exact ⟨first, others, whole⟩
  have digit : first < 10 := small first (by simp [whole])
  have text : token.magnitudeChars =
      first.digitChar :: (digitChars others ++ token.fractionChars ++ token.exponentChars) := by
    simp [NumberToken.magnitudeChars, whole, digitChars]
  refine ⟨first, (digitChars others ++ token.fractionChars ++ token.exponentChars).flatMap
    String.utf8EncodeChar, digit, ?_⟩
  rw [text, List.flatMap_cons, utf8EncodeChar_digitChar digit]
  rfl

/-- The value of a token is read in its place. -/
theorem readValue?_number {token : NumberToken} (wellFormed : token.WellFormed)
    (depth levels : Nat) {rest : List UInt8} (stops : StopsNumber rest) :
    readValue? (depth + 1) levels (token.chars.flatMap String.utf8EncodeChar ++ rest) =
      some (token.value, rest) := by
  have read := readMagnitude?_chars wellFormed stops
  obtain ⟨digit, others, small, text⟩ := magnitudeChars_head wellFormed
  unfold NumberToken.chars
  cases sign : token.negative with
  | true =>
    have minus : String.utf8EncodeChar '-' = [0x2D] := by decide
    rw [sign] at read
    simp only [if_true, List.cons_append, List.nil_append, List.flatMap_cons, minus]
    simpa [readValue?, skipSpace, isSpace] using read
  | false =>
    rw [sign] at read
    simp only [Bool.false_eq_true, if_false, List.nil_append, text, List.cons_append] at read ⊢
    have all : ∀ digit < 10, isSpace (UInt8.ofNat (0x30 + digit)) = false ∧
        UInt8.ofNat (0x30 + digit) ≠ 0x22 ∧ UInt8.ofNat (0x30 + digit) ≠ 0x5B ∧
        UInt8.ofNat (0x30 + digit) ≠ 0x7B ∧ UInt8.ofNat (0x30 + digit) ≠ 0x2D ∧
        isDigitByte (UInt8.ofNat (0x30 + digit)) = true := by decide
    obtain ⟨noSpace, noQuote, noList, noMap, noSign, isDigit⟩ := all digit small
    simp only [readValue?, skipSpace, List.dropWhile_cons, noSpace, Bool.false_eq_true, if_false,
      noQuote, noList, noMap, noSign, isDigit, if_true, read]

/-! ## Integers -/

/-- All digits are taken when their number stays below the bound. -/
theorem takeDigits_of_lt {bound : Nat} (digits : List Nat) (start taken : Nat)
    (small : digits.foldl (fun value digit => value * 10 + digit) start < bound) :
    takeDigits bound start taken digits =
      (digits.foldl (fun value digit => value * 10 + digit) start, taken + digits.length) := by
  induction digits generalizing start taken with
  | nil => rfl
  | cons digit digits ih =>
    have grows : ∀ (digits : List Nat) (start : Nat),
        start ≤ digits.foldl (fun value digit => value * 10 + digit) start := by
      intro digits
      induction digits with
      | nil => exact fun start => Nat.le_refl start
      | cons digit digits ih =>
        intro start
        have step := ih (start * 10 + digit)
        simp only [List.foldl_cons]
        omega
    have first := grows digits (start * 10 + digit)
    simp only [List.foldl_cons] at small ⊢
    rw [takeDigits, if_pos (by omega), ih _ _ small]
    simp only [List.length_cons, Prod.mk.injEq, true_and]
    omega

/-- An integer of a word is written as a token that is worth it. -/
theorem exists_token_of_integer {value : Int} (low : -2 ^ 63 ≤ value) (high : value < 2 ^ 64) :
    ∃ token : NumberToken, token.WellFormed ∧ integerText value = token.chars ∧
      token.value = .integer .decimal value := by
  obtain ⟨digits, text, small, leads, worth, -⟩ := exists_digits value.natAbs
  refine ⟨⟨decide (value < 0), digits, [], false, false, []⟩,
    ⟨small, by simp, by simp, leads, by simp, by simp⟩, ?_, ?_⟩
  · simp only [integerText, NumberToken.chars, NumberToken.magnitudeChars,
      NumberToken.fractionChars, NumberToken.exponentChars, ← text]
    rw [Int.toString_eq_repr, Int.repr_eq_if]
    by_cases negative : value < 0
    · rw [if_neg (by omega), show (-value).toNat = value.natAbs by omega]
      simp [negative]
    · rw [if_pos (by omega), show value.toNat = value.natAbs by omega]
      simp [negative]
  · have below : digitsValue digits < Nat.pow 2 64 := by
      rw [worth]
      change value.natAbs < 2 ^ 64
      omega
    have taken := takeDigits_of_lt digits 0 0 below
    rw [show digits.foldl (fun value digit => value * 10 + digit) 0 = value.natAbs from worth]
      at taken
    simp only [NumberToken.value, taken, takeDigits, integerOfParts, Nat.pow_eq]
    by_cases negative : value < 0
    · have magnitude : -(value.natAbs : Int) = value := by omega
      simp only [negative, decide_true, List.isEmpty_nil, Nat.zero_add, Nat.sub_self,
        Bool.and_self, Bool.false_eq_true, if_true, if_false, magnitude]
      rw [if_neg (by omega)]
    · have magnitude : (value.natAbs : Int) = value := by omega
      simp only [negative, decide_false, decide_true, List.isEmpty_nil, Nat.zero_add,
        Nat.sub_self, Bool.and_self, Bool.false_eq_true, if_true, if_false, magnitude]

/-! ## Other numbers -/

/-- Digits followed by zeros and a point are the text of a token. -/
theorem exists_token_of_whole {digits : List Nat} (small : ∀ digit ∈ digits, digit < 10)
    (leads : Leads digits) (power : Nat) (positive : digits = [0] → power = 0)
    (negative : Bool) :
    ∃ token : NumberToken, token.WellFormed ∧ token.negative = negative ∧
      digitChars digits ++ List.replicate power '0' ++ ".0".toList = token.magnitudeChars := by
  refine ⟨⟨negative, digits ++ List.replicate power 0, [0], false, false, []⟩,
    ⟨?_, by simp, by simp, ?_, by simp, by simp⟩, rfl, ?_⟩
  · intro digit member
    rcases List.mem_append.mp member with front | padding
    · exact small digit front
    · rw [List.eq_of_mem_replicate padding]
      decide
  · rcases leads with zero | ⟨first, others, rfl, nonzero⟩
    · exact .inl (by simp [zero, positive zero])
    · exact .inr ⟨first, others ++ List.replicate power 0, rfl, nonzero⟩
  · simp [NumberToken.magnitudeChars, NumberToken.fractionChars, NumberToken.exponentChars,
      digitChars, Nat.digitChar]

/-- Digits with a point before the last `places` of them, and zeros in front where there are too
few, are the text of a token. -/
theorem exists_token_of_places {digits : List Nat} (small : ∀ digit ∈ digits, digit < 10)
    (leads : Leads digits) (notZero : digits ≠ [0]) {places : Nat} (some : 0 < places)
    (negative : Bool) :
    ∃ token : NumberToken, token.WellFormed ∧ token.negative = negative ∧
      (let padded := List.replicate (places + 1 - digits.length) '0' ++ digitChars digits
      padded.take (padded.length - places) ++ '.' :: padded.drop (padded.length - places)) =
        token.magnitudeChars := by
  obtain ⟨first, others, rfl, nonzero⟩ := leads.resolve_left notZero
  set padded := List.replicate (places + 1 - (first :: others).length) 0 ++ first :: others
    with named
  have length : padded.length = max (places + 1) (others.length + 1) := by
    simp only [named, List.length_append, List.length_replicate, List.length_cons]
    omega
  have digit : ∀ digit ∈ padded, digit < 10 := by
    intro digit member
    rcases List.mem_append.mp member with padding | back
    · rw [List.eq_of_mem_replicate padding]
      decide
    · exact small digit back
  have chars : List.replicate (places + 1 - (first :: others).length) '0' ++
      digitChars (first :: others) = digitChars padded := by
    simp [named, digitChars, Nat.digitChar]
  have fraction : padded.drop (padded.length - places) ≠ [] := by
    rw [ne_eq, List.drop_eq_nil_iff]
    omega
  refine ⟨⟨negative, padded.take (padded.length - places), padded.drop (padded.length - places),
    false, false, []⟩, ⟨?_, ?_, by simp, ?_, by simp, by simp⟩, rfl, ?_⟩
  · exact fun digit' member => digit digit' (List.mem_of_mem_take member)
  · exact fun digit' member => digit digit' (List.mem_of_mem_drop member)
  · by_cases few : others.length + 1 ≤ places
    · refine .inl ?_
      obtain ⟨zeros, more⟩ : ∃ zeros, places + 1 - (first :: others).length = zeros + 1 :=
        ⟨places - (first :: others).length, by simp only [List.length_cons]; omega⟩
      rw [show padded.length - places = 1 by omega, named, more, List.replicate_succ]
      rfl
    · refine .inr ⟨first, others.take (padded.length - places - 1), ?_, nonzero⟩
      rw [show padded.length - places = padded.length - places - 1 + 1 by omega, named,
        show places + 1 - (first :: others).length = 0 by simp only [List.length_cons]; omega]
      simp
  · simp only [chars, NumberToken.magnitudeChars, NumberToken.fractionChars,
      NumberToken.exponentChars, if_neg fraction, Bool.false_eq_true, if_false, List.append_nil]
    simp [digitChars]

/-- Digits with a point behind the first and an exponent are the text of a token. -/
theorem exists_token_of_exponent {digits : List Nat} (small : ∀ digit ∈ digits, digit < 10)
    (leads : Leads digits) (notZero : digits ≠ [0]) (exponent : Int) (negative : Bool) :
    ∃ token : NumberToken, token.WellFormed ∧ token.negative = negative ∧
      NumberLayout.exponentText (digitChars digits) exponent = token.magnitudeChars := by
  obtain ⟨first, others, rfl, nonzero⟩ := leads.resolve_left notZero
  obtain ⟨places, text, placesSmall, placesLead, -, -⟩ := exists_digits exponent.natAbs
  refine ⟨⟨negative, [first], others, true, decide (exponent < 0), places⟩,
    ⟨?_, ?_, placesSmall, .inr ⟨first, [], rfl, nonzero⟩, ?_, by simp⟩, rfl, ?_⟩
  · exact fun digit member => small digit (by simp_all)
  · exact fun digit member => small digit (by simp_all)
  · rintro -
    rcases placesLead with rfl | ⟨first, others, rfl, -⟩ <;> simp
  · simp only [NumberLayout.exponentText, text]
    cases others <;>
      simp [digitChars, NumberToken.magnitudeChars, NumberToken.fractionChars,
        NumberToken.exponentChars]

/-- The magnitude of a finite number is the text of a token. -/
theorem exists_token_of_magnitude {x : Binary64} (finite : x.isFinite = true)
    (nonzero : x.isZero = false) (negative : Bool) :
    ∃ token : NumberToken, token.WellFormed ∧ token.negative = negative ∧
      NumberLayout.json.magnitudeText x = token.magnitudeChars := by
  obtain ⟨digits, text, small, leads, -, notZero⟩ :=
    exists_digits (Decimal.shortest .even x).digits
  have nonzeroDigits := notZero (Decimal.shortest_digits_pos finite nonzero .even)
  simp only [NumberLayout.magnitudeText, NumberLayout.json, text]
  split
  · rw [NumberLayout.positionalText]
    split
    · exact exists_token_of_whole small leads _ (fun zero => absurd zero nonzeroDigits) negative
    · have places : 0 < (Decimal.shortest .even x).power.natAbs := by omega
      simpa [digitChars] using exists_token_of_places small leads nonzeroDigits places negative
  · exact exists_token_of_exponent small leads nonzeroDigits _ negative

/-- A finite number is written as a token. -/
theorem exists_token_of_isFinite {x : Binary64} (finite : x.isFinite = true) :
    ∃ token : NumberToken, token.WellFormed ∧ realText x = token.chars := by
  have magnitude : ∃ token : NumberToken, token.WellFormed ∧ token.negative = x.isNegative ∧
      (if x.isZero then NumberLayout.json.positionalText ['0'] 0
        else NumberLayout.json.magnitudeText (if x.isNegative then -x else x)) =
          token.magnitudeChars := by
    cases zero : x.isZero with
    | true =>
      have small : ∀ digit ∈ [0], digit < 10 := by simp
      have written := exists_token_of_whole small (.inl rfl) 0 (fun _ => rfl) x.isNegative
      simpa [NumberLayout.positionalText, NumberLayout.json, digitChars, Nat.digitChar]
        using written
    | false =>
      simp only [Bool.false_eq_true, if_false]
      apply exists_token_of_magnitude
      · split
        · rw [Binary64.isFinite_neg, finite]
        · exact finite
      · split
        · rw [Binary64.isZero_neg, zero]
        · exact zero
  obtain ⟨token, wellFormed, sign, text⟩ := magnitude
  refine ⟨token, wellFormed, ?_⟩
  rw [realText, if_pos finite, NumberLayout.finiteText, text, NumberToken.chars, sign]

/-! ## Numbers read back -/

/-- The value of a token is no byte of a string. -/
theorem NumberToken.value_ne_byte (token : NumberToken) (value : Int) :
    token.value ≠ .integer .byte value := by
  intro same
  simp only [NumberToken.value, withExponent, integerOfParts, realOfParts] at same
  split at same <;> (repeat' split at same) <;> cases same

/-- What the reader makes of a number as it is written. -/
def reread (x : Binary64) : Datum :=
  (read? (Text.utf8 (String.ofList (realText x)))).getD .unreadable

/-- Whether a number is read back as itself. -/
def ReadsBack (x : Binary64) : Prop := (reread x).toReal? = some x

instance (x : Binary64) : Decidable (ReadsBack x) := inferInstanceAs (Decidable (_ = _))

/-- Every number is read, as null or as the value of a token, in front of what does not continue
it. -/
theorem exists_readValue?_realText (x : Binary64) :
    ∃ datum, (∀ value, datum ≠ .integer .byte value) ∧
      ∀ depth levels rest, StopsNumber rest →
        readValue? (depth + 1) levels ((realText x).flatMap String.utf8EncodeChar ++ rest) =
          some (datum, rest) := by
  cases finite : x.isFinite with
  | true =>
    obtain ⟨token, wellFormed, text⟩ := exists_token_of_isFinite finite
    refine ⟨token.value, token.value_ne_byte, fun depth levels rest stops => ?_⟩
    rw [text, readValue?_number wellFormed depth levels stops]
  | false =>
    have text : (realText x).flatMap String.utf8EncodeChar = [0x6E, 0x75, 0x6C, 0x6C] := by
      rw [realText, if_neg (by simp [finite])]
      decide
    refine ⟨.null, ?_, fun depth levels rest stops => ?_⟩
    · exact fun value => by simp
    · have word : Text.utf8 "ull" = [0x75, 0x6C, 0x6C] := by decide
      rw [text]
      simp [readValue?, skipSpace, isSpace, isDigitByte, behindWord?, word]

/-- A written number is read in its place. -/
theorem readValue?_realText (x : Binary64) (depth levels : Nat) {rest : List UInt8}
    (stops : StopsNumber rest) :
    readValue? (depth + 1) levels ((realText x).flatMap String.utf8EncodeChar ++ rest) =
      some (reread x, rest) := by
  obtain ⟨datum, -, reads⟩ := exists_readValue?_realText x
  have alone := reads ((realText x).flatMap String.utf8EncodeChar).length maxLevels [] (by
    simp [StopsNumber])
  have same : reread x = datum := by
    rw [List.append_nil] at alone
    rw [reread, Text.utf8_ofList, read?, alone]
    rfl
  rw [same]
  exact reads depth levels rest stops

/-- A written number is not read as a byte of a string. -/
theorem reread_ne_byte (x : Binary64) (value : Int) : reread x ≠ .integer .byte value := by
  obtain ⟨datum, notByte, reads⟩ := exists_readValue?_realText x
  have stops : StopsNumber [] := by simp [StopsNumber]
  have same := (readValue?_realText x 0 0 stops).symm.trans (reads 0 0 [] stops)
  simp only [Option.some.injEq, Prod.mk.injEq, and_true] at same
  rw [same]
  exact notByte value

end ShapeScene.Json
