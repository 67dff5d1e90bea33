import ShapeScene.Proofs.Data.Json.StringText

/-!
# JSON with guarded slashes

A slash behind a less-than sign may have a backslash put in front of it anywhere in a JSON text. No
token but a string has a less-than sign, within a string it is never part of an escape, and an
escaped slash reads as a slash. So every reader does with the guarded bytes what it does with the
bytes themselves, and leaves the guarded form of what it left before.
-/

namespace ShapeScene.Json

/-- The bytes with a backslash between each less-than sign and a slash behind it. -/
def guarded : List UInt8 → List UInt8
  | [] => []
  | byte :: rest =>
    if byte = 0x3C ∧ rest.head? = some 0x2F then byte :: 0x5C :: guarded rest
    else byte :: guarded rest

/-! ## Guarded bytes -/

/-- A byte other than a less-than sign stays as it is. -/
theorem guarded_cons {byte : UInt8} (other : byte ≠ 0x3C) (rest : List UInt8) :
    guarded (byte :: rest) = byte :: guarded rest := by
  rw [guarded, if_neg fun both => other both.1]

/-- Bytes without a less-than sign stay as they are. -/
theorem guarded_append {front : List UInt8} (clear : 0x3C ∉ front) (rest : List UInt8) :
    guarded (front ++ rest) = front ++ guarded rest := by
  induction front with
  | nil => rfl
  | cons byte front ih =>
    obtain ⟨other, others⟩ := List.ne_and_not_mem_of_not_mem_cons clear
    rw [List.cons_append, guarded_cons other.symm, ih others, List.cons_append]

/-- The first byte stays as it is. -/
theorem exists_guarded_cons (byte : UInt8) (rest : List UInt8) :
    ∃ behind, guarded (byte :: rest) = byte :: behind := by
  rw [guarded]
  split
  · exact ⟨_, rfl⟩
  · exact ⟨_, rfl⟩

/-- Nothing is taken away. -/
theorem length_le_guarded (bytes : List UInt8) : bytes.length ≤ (guarded bytes).length := by
  induction bytes with
  | nil => exact Nat.le_refl 0
  | cons byte rest ih =>
    rw [guarded]
    split <;> simp only [List.length_cons] <;> omega

/-- Bytes of a class without the less-than sign are taken from the front as they are, and what is
left is guarded. -/
theorem span_guarded {among : UInt8 → Bool} (outside : among 0x3C = false) (bytes : List UInt8) :
    (guarded bytes).takeWhile among = bytes.takeWhile among ∧
      (guarded bytes).dropWhile among = guarded (bytes.dropWhile among) := by
  induction bytes with
  | nil => exact ⟨rfl, rfl⟩
  | cons byte rest ih =>
    cases inside : among byte with
    | true =>
      have other : byte ≠ 0x3C := by
        rintro rfl
        rw [outside] at inside
        cases inside
      rw [guarded_cons other]
      simp only [List.takeWhile_cons, List.dropWhile_cons, inside, if_true, ih.1, ih.2,
        and_self]
    | false =>
      obtain ⟨behind, same⟩ := exists_guarded_cons byte rest
      simp only [List.takeWhile_cons, List.dropWhile_cons, inside, same, Bool.false_eq_true,
        if_false, and_self]

/-- White space is passed as before. -/
theorem skipSpace_guarded (bytes : List UInt8) :
    skipSpace (guarded bytes) = guarded (skipSpace bytes) :=
  (span_guarded (by decide) bytes).2

/-- Digits are read as before. -/
theorem readDigits_guarded (bytes : List UInt8) :
    readDigits (guarded bytes) = ((readDigits bytes).1, guarded (readDigits bytes).2) := by
  obtain ⟨taken, left⟩ := span_guarded (show isDigitByte 0x3C = false by decide) bytes
  rw [readDigits, taken, left, readDigits]

/-! ## Readers -/

/-- What one reader reads, another one reads from the guarded bytes, and it leaves the guarded form
of what the first one leaves. -/
def Withstands {α : Type} (read guardedRead : List UInt8 → Option (α × List UInt8)) : Prop :=
  ∀ ⦃bytes : List UInt8⦄ ⦃value : α⦄ ⦃rest : List UInt8⦄, read bytes = some (value, rest) →
    guardedRead (guarded bytes) = some (value, guarded rest)

/-- A reader whose result is made into another one withstands guards when it did before. -/
theorem Withstands.map {α β : Type} {read guardedRead : List UInt8 → Option (α × List UInt8)}
    (withstands : Withstands read guardedRead) (make : α → β) :
    Withstands (fun bytes => (read bytes).map fun (value, rest) => (make value, rest))
      fun bytes => (guardedRead bytes).map fun (value, rest) => (make value, rest) := by
  intro bytes value rest made
  obtain ⟨⟨part, behind⟩, partRead, same⟩ := Option.map_eq_some_iff.mp made
  obtain ⟨rfl, rfl⟩ := Prod.mk.inj same
  simp only [withstands partRead, Option.map_some]

/-- Of two readers the one that is chosen withstands guards when both do. -/
theorem Withstands.ite {α : Type}
    {first guardedFirst second guardedSecond : List UInt8 → Option (α × List UInt8)}
    (chosen : Withstands first guardedFirst) (choice : Prop) [Decidable choice]
    (otherwise : Withstands second guardedSecond) :
    Withstands (fun bytes => if choice then first bytes else second bytes)
      fun bytes => if choice then guardedFirst bytes else guardedSecond bytes := by
  intro bytes value rest read
  by_cases decided : choice
  · simp only [if_pos decided] at read ⊢
    exact chosen read
  · simp only [if_neg decided] at read ⊢
    exact otherwise read

/-- A reader behind a byte that is no less-than sign withstands guards when it did before. -/
theorem Withstands.behind {α : Type} {read guardedRead : List UInt8 → Option (α × List UInt8)}
    (withstands : Withstands read guardedRead) {byte : UInt8} (other : byte ≠ 0x3C) :
    Withstands (fun rest => read (byte :: rest)) fun rest => guardedRead (byte :: rest) := by
  intro bytes value rest valueRead
  have same := withstands valueRead
  rwa [guarded_cons other] at same

/-- Where nothing is read, nothing is lost. -/
theorem withstands_none {α : Type} :
    Withstands (fun _ => (none : Option (α × List UInt8))) fun _ => none :=
  fun _ _ _ read => nomatch read

/-! ### Numbers -/

/-- The digits before the point withstand guards. -/
theorem withstands_readWhole? : Withstands readWhole? readWhole? := by
  intro bytes value rest read
  simp only [readWhole?, readDigits_guarded] at read ⊢
  generalize readDigits bytes = taken at read ⊢
  obtain ⟨digits, behind⟩ := taken
  match digits with
  | [] => cases read
  | 0 :: _ :: _ => cases read
  | [0] | (_ + 1) :: _ =>
    obtain ⟨rfl, rfl⟩ := Prod.mk.inj (Option.some.inj read)
    rfl

/-- Where no point stands, there is no fraction. -/
theorem readFraction?_cons {byte : UInt8} (other : byte ≠ 0x2E) (rest : List UInt8) :
    readFraction? (byte :: rest) = some ([], byte :: rest) := by
  unfold readFraction?
  split
  · rename_i same
    exact absurd (List.cons.inj same).1 other
  · rfl

/-- The digits behind the point withstand guards. -/
theorem withstands_readFraction? : Withstands readFraction? readFraction? := by
  intro bytes value rest read
  cases bytes with
  | nil =>
    obtain ⟨rfl, rfl⟩ := Prod.mk.inj (Option.some.inj read)
    rfl
  | cons byte behind =>
    by_cases point : byte = 0x2E
    · subst point
      rw [guarded_cons (by decide)]
      simp only [readFraction?, readDigits_guarded] at read ⊢
      generalize readDigits behind = taken at read ⊢
      obtain ⟨digits, left⟩ := taken
      cases digits with
      | nil => cases read
      | cons digit digits =>
        obtain ⟨rfl, rfl⟩ := Prod.mk.inj (Option.some.inj read)
        rfl
    · rw [readFraction?_cons point] at read
      obtain ⟨rfl, rfl⟩ := Prod.mk.inj (Option.some.inj read)
      obtain ⟨later, same⟩ := exists_guarded_cons byte behind
      rw [same, readFraction?_cons point]

/-- The sign of an exponent is read as before. -/
theorem readExponentSign_guarded (bytes : List UInt8) :
    readExponentSign (guarded bytes) =
      ((readExponentSign bytes).1, guarded (readExponentSign bytes).2) := by
  cases bytes with
  | nil => rfl
  | cons byte behind =>
    by_cases plus : byte = 0x2B
    · subst plus
      rw [guarded_cons (by decide)]
      rfl
    by_cases minus : byte = 0x2D
    · subst minus
      rw [guarded_cons (by decide)]
      rfl
    have unsigned (rest : List UInt8) :
        readExponentSign (byte :: rest) = (false, byte :: rest) := by
      unfold readExponentSign
      split
      · rename_i same
        exact absurd (List.cons.inj same).1 plus
      · rename_i same
        exact absurd (List.cons.inj same).1 minus
      · rfl
    obtain ⟨later, same⟩ := exists_guarded_cons byte behind
    rw [same, unsigned, unsigned, same]

/-- An exponent withstands guards. -/
theorem withstands_readExponent? (token : NumberToken) :
    Withstands (readExponent? token) (readExponent? token) := by
  intro bytes value rest read
  cases bytes with
  | nil =>
    obtain ⟨rfl, rfl⟩ := Prod.mk.inj (Option.some.inj read)
    rfl
  | cons byte behind =>
    by_cases letter : byte = 0x65 ∨ byte = 0x45
    · have other : byte ≠ 0x3C := by rcases letter with rfl | rfl <;> decide
      rw [guarded_cons other]
      simp only [readExponent?, if_pos letter, readExponentSign_guarded,
        readDigits_guarded] at read ⊢
      generalize readDigits (readExponentSign behind).2 = taken at read ⊢
      obtain ⟨digits, left⟩ := taken
      cases digits with
      | nil => cases read
      | cons digit digits =>
        obtain ⟨rfl, rfl⟩ := Prod.mk.inj (Option.some.inj read)
        rfl
    · have none (rest : List UInt8) :
          readExponent? token (byte :: rest) = some (token, byte :: rest) := by
        rw [readExponent?, if_neg letter]
      rw [none] at read
      obtain ⟨rfl, rfl⟩ := Prod.mk.inj (Option.some.inj read)
      obtain ⟨later, same⟩ := exists_guarded_cons byte behind
      rw [same, none]

/-- A number withstands guards. -/
theorem withstands_readMagnitude? (negative : Bool) :
    Withstands (readMagnitude? negative) (readMagnitude? negative) := by
  intro bytes value rest read
  obtain ⟨⟨whole, afterWhole⟩, wholeRead, read⟩ := Option.bind_eq_some_iff.mp read
  obtain ⟨⟨fraction, afterFraction⟩, fractionRead, read⟩ := Option.bind_eq_some_iff.mp read
  obtain ⟨⟨token, behind⟩, exponentRead, same⟩ := Option.bind_eq_some_iff.mp read
  obtain ⟨rfl, rfl⟩ := Prod.mk.inj (Option.some.inj same)
  simp only [readMagnitude?, withstands_readWhole? wholeRead,
    withstands_readFraction? fractionRead, withstands_readExponent? _ exponentRead,
    Option.bind_eq_bind, Option.bind_some]

/-! ### Strings -/

/-- No code has a less-than sign among its digits. -/
theorem not_mem_of_readCode? {a b c d : UInt8} {code : Nat}
    (read : readCode? a b c d = some code) : 0x3C ∉ [a, b, c, d] := by
  have digit : Text.hexValue? (Char.ofNat 0x3C) = none := by decide
  intro member
  simp only [List.mem_cons, List.not_mem_nil, or_false] at member
  rcases member with rfl | rfl | rfl | rfl <;> simp [readCode?, digit] at read

/-- An escaped slash reads as a slash. -/
theorem readUnits?_slash (rest : List UInt8) :
    readUnits? (0x5C :: 0x2F :: rest) = readUnits? (0x2F :: rest) := by
  rw [readUnits?_escape (show escapedByte? 0x2F = some 0x2F by decide),
    readUnits?_plain ⟨by decide, by decide, by decide⟩]

/-- The units of a string withstand guards. -/
theorem withstands_readUnits? : Withstands readUnits? readUnits? := by
  intro bytes
  fun_induction readUnits? bytes with
  | case1 | case4 | case6 | case7 => exact fun _ _ read => nomatch read
  | case2 rest =>
    rintro _ _ ⟨⟩
    rw [guarded_cons (by decide), readUnits?]
  | case3 a b c d rest code units behind restRead codeRead ih =>
    rintro _ _ ⟨⟩
    have clear : 0x3C ∉ [0x5C, 0x75, a, b, c, d] := by
      have digits := not_mem_of_readCode? codeRead
      simp only [List.mem_cons, List.not_mem_nil, or_false, not_or] at digits ⊢
      exact ⟨by decide, by decide, digits⟩
    have same := guarded_append clear rest
    simp only [List.cons_append, List.nil_append] at same
    rw [same, readUnits?]
    simp only [codeRead, ih restRead]
  | case5 letter rest _ byte units behind restRead escape ih =>
    rintro _ _ ⟨⟩
    have other : letter ≠ 0x3C := by
      rintro rfl
      simp [escapedByte?] at escape
    rw [guarded_cons (by decide), guarded_cons other, readUnits?_escape escape, ih restRead]
    rfl
  | case8 byte rest noQuote _ _ printable ih =>
    intro units behind read
    obtain ⟨⟨later, left⟩, restRead, same⟩ := Option.map_eq_some_iff.mp read
    obtain ⟨rfl, rfl⟩ := Prod.mk.inj same
    have plain : IsPlainByte byte := by
      rw [not_or, UInt8.lt_iff_toNat_lt] at printable
      exact ⟨Nat.le_of_not_lt printable.1, noQuote, printable.2⟩
    rw [guarded]
    split
    · rename_i guards
      obtain ⟨tail, rfl⟩ := List.head?_eq_some_iff.mp guards.2
      have slash := ih restRead
      rw [guarded_cons (by decide)] at slash ⊢
      rw [readUnits?_plain plain, readUnits?_slash, slash]
      rfl
    · rw [readUnits?_plain plain, ih restRead]
      rfl

/-- A string withstands guards. -/
theorem withstands_readString? : Withstands readString? readString? :=
  withstands_readUnits?.map stringValue

/-! ### Words, lists and maps -/

/-- What is behind a word is guarded when the word has no less-than sign. -/
theorem behindWord?_guarded {word : String} (clear : 0x3C ∉ Text.utf8 word)
    {bytes rest : List UInt8} (behind : behindWord? word bytes = some rest) :
    behindWord? word (guarded bytes) = some (guarded rest) := by
  unfold behindWord? at behind ⊢
  split at behind
  · rename_i begins
    obtain ⟨rest, rfl⟩ := List.isPrefixOf_iff_prefix.mp begins
    rw [List.drop_left] at behind
    obtain rfl := Option.some.inj behind
    rw [guarded_append clear, if_pos (List.isPrefixOf_iff_prefix.mpr ⟨_, rfl⟩), List.drop_left]
  · cases behind

section Sequences

variable {α : Type} {read guardedRead : List UInt8 → Option (α × List UInt8)}
  (withstands : Withstands read guardedRead)

include withstands

/-- Items withstand guards when each of them does; there may be room for more of them. -/
theorem Withstands.readItems? {close : UInt8} (closes : close ≠ 0x3C) {bound wider : Nat}
    (room : bound ≤ wider) :
    Withstands (Json.readItems? close read bound) (Json.readItems? close guardedRead wider) := by
  induction bound generalizing wider with
  | zero => exact fun _ _ _ itemsRead => nomatch itemsRead
  | succ bound ih =>
    obtain ⟨wider, rfl⟩ := Nat.exists_eq_add_of_le' (Nat.le_trans (Nat.succ_pos bound) room)
    intro bytes items rest itemsRead
    unfold Json.readItems? at itemsRead ⊢
    split at itemsRead
    · cases itemsRead
    · rename_i item behind itemRead
      simp only [withstands itemRead, skipSpace_guarded]
      split at itemsRead
      · cases itemsRead
      · rename_i byte left divided
        rw [divided]
        split at itemsRead
        · rename_i closing
          obtain ⟨rfl, rfl⟩ := Prod.mk.inj (Option.some.inj itemsRead)
          rw [guarded_cons (closing ▸ closes)]
          simp only [if_pos closing]
        · rename_i further
          split at itemsRead
          · rename_i comma
            obtain ⟨⟨others, last⟩, othersRead, same⟩ := Option.map_eq_some_iff.mp itemsRead
            obtain ⟨rfl, rfl⟩ := Prod.mk.inj same
            have later := ih (Nat.le_of_succ_le_succ room) othersRead
            rw [guarded_cons (comma ▸ by decide)]
            simp only [if_neg further, if_pos comma, later, Option.map_some]
          · cases itemsRead

/-- A sequence withstands guards when each of its items does. -/
theorem Withstands.readSequence? {close : UInt8} (closes : close ≠ 0x3C) {bound wider : Nat}
    (room : bound ≤ wider) :
    Withstands (Json.readSequence? close read bound)
      (Json.readSequence? close guardedRead wider) := by
  intro bytes items rest itemsRead
  unfold Json.readSequence? at itemsRead ⊢
  rw [skipSpace_guarded]
  split at itemsRead
  · cases itemsRead
  · rename_i byte behind divided
    rw [divided]
    split at itemsRead
    · rename_i closing
      obtain ⟨rfl, rfl⟩ := Prod.mk.inj (Option.some.inj itemsRead)
      rw [guarded_cons (closing ▸ closes)]
      simp only [if_pos closing]
    · rename_i further
      have later := withstands.readItems? closes room itemsRead
      obtain ⟨left, same⟩ := exists_guarded_cons byte behind
      rw [same] at later ⊢
      simp only [if_neg further, later]

end Sequences

/-- A key with its value withstands guards when values do. -/
theorem Withstands.readMember? {read guardedRead : List UInt8 → Option (Datum × List UInt8)}
    (withstands : Withstands read guardedRead) :
    Withstands (Json.readMember? read) (Json.readMember? guardedRead) := by
  intro bytes member rest memberRead
  unfold Json.readMember? at memberRead
  split at memberRead
  · rename_i behindQuote quote
    obtain ⟨⟨key, behindKey⟩, keyRead, memberRead⟩ := Option.bind_eq_some_iff.mp memberRead
    simp only at memberRead
    split at memberRead
    · rename_i behindColon colon
      obtain ⟨⟨value, behind⟩, valueRead, same⟩ := Option.bind_eq_some_iff.mp memberRead
      obtain ⟨rfl, rfl⟩ := Prod.mk.inj (Option.some.inj same)
      have quoteGuarded := guarded_cons (show (0x22 : UInt8) ≠ 0x3C by decide) behindQuote
      have colonGuarded := guarded_cons (show (0x3A : UInt8) ≠ 0x3C by decide) behindColon
      simp only [Json.readMember?, skipSpace_guarded, quote, quoteGuarded,
        withstands_readString? keyRead, Option.bind_eq_bind, Option.bind_some, colon,
        colonGuarded, withstands valueRead]
    · cases memberRead
  · cases memberRead

/-! ### Values -/

/-- A word behind its first letter withstands guards. -/
theorem withstands_behindWord? (word : String) (clear : 0x3C ∉ Text.utf8 word) (datum : Datum) :
    Withstands (fun bytes => (behindWord? word bytes).map fun behind => (datum, behind))
      fun bytes => (behindWord? word bytes).map fun behind => (datum, behind) := by
  intro bytes value rest read
  obtain ⟨behind, behindRead, same⟩ := Option.map_eq_some_iff.mp read
  obtain ⟨rfl, rfl⟩ := Prod.mk.inj same
  simp only [behindWord?_guarded clear behindRead, Option.map_some]

/-- Where a value is read, its first byte is no less-than sign. -/
theorem readValue?_lessThan {depth levels : Nat} {bytes rest : List UInt8}
    (first : skipSpace bytes = 0x3C :: rest) : readValue? depth levels bytes = none := by
  cases depth with
  | zero => rfl
  | succ depth =>
    simp only [readValue?, first]
    rfl

/-- A value withstands guards; there may be room for more levels and items. -/
theorem withstands_readValue? {depth wider : Nat} (room : depth ≤ wider) (levels : Nat) :
    Withstands (readValue? depth levels) (readValue? wider levels) := by
  induction depth generalizing wider levels with
  | zero => exact fun _ _ _ read => nomatch read
  | succ depth ih =>
    obtain ⟨wider, rfl⟩ := Nat.exists_eq_add_of_le' (Nat.le_trans (Nat.succ_pos depth) room)
    have narrower : depth ≤ wider := Nat.le_of_succ_le_succ room
    have values := ih narrower (levels - 1)
    have items := (values.readSequence? (show (0x5D : UInt8) ≠ 0x3C by decide) narrower).map
      fun items => atLevel levels (.list items)
    have entries := (values.readMember?.readSequence? (show (0x7D : UInt8) ≠ 0x3C by decide)
      narrower).map fun entries => atLevel levels (.map entries)
    intro bytes datum rest read
    cases divided : skipSpace bytes with
    | nil =>
      rw [readValue?, divided] at read
      cases read
    | cons byte behind =>
      have other : byte ≠ 0x3C := by
        rintro rfl
        rw [readValue?_lessThan divided] at read
        cases read
      rw [readValue?, divided] at read
      rw [readValue?, skipSpace_guarded, divided, guarded_cons other]
      have digits := (withstands_readMagnitude? false).behind other
      have null := withstands_behindWord? "ull" (by decide) .null
      have yes := withstands_behindWord? "rue" (by decide) (.bool true)
      have no := withstands_behindWord? "alse" (by decide) (.bool false)
      have word := null.ite (byte = 0x6E) (yes.ite (byte = 0x74) (no.ite (byte = 0x66)
        withstands_none))
      have number := (withstands_readMagnitude? true).ite (byte = 0x2D)
        (digits.ite (isDigitByte byte = true) word)
      exact withstands_readString?.ite (byte = 0x22) (items.ite (byte = 0x5B)
        (entries.ite (byte = 0x7B) number)) read

/-- A JSON text with guarded slashes is read as what it was read as without them. -/
theorem read?_guarded {bytes : List UInt8} {datum : Datum} (read : read? bytes = some datum) :
    read? (guarded bytes) = some datum := by
  have room : bytes.length + 1 ≤ (guarded bytes).length + 1 :=
    Nat.succ_le_succ (length_le_guarded bytes)
  unfold read? at read ⊢
  split at read
  · rename_i value rest valueRead
    rw [withstands_readValue? room maxLevels valueRead]
    simp only [skipSpace_guarded]
    split at read
    · rename_i ended
      rw [List.isEmpty_iff.mp ended]
      exact read
    · cases read
  · cases read

end ShapeScene.Json
