import Mathlib.Tactic.NormNum
import ShapeScene.Text.Natural

/-!
# Natural numbers read back

A number below the bound is read from its texts and from nothing else. These are its digits, with any
zeros and one sign in front, so that none of them has fewer characters than the number has digits.
-/

namespace ShapeScene.Text

/-- No digits leave a value as it is. -/
theorem decimalValueAfter_nil (value : Nat) : decimalValueAfter value [] = value := by
  -- the equations that `simp` would make of the definition take it too long
  with_unfolding_all rfl

/-- A digit comes behind the digits before it. -/
theorem decimalValueAfter_cons (value : Nat) (digit : Char) (digits : List Char) :
    decimalValueAfter value (digit :: digits) =
      decimalValueAfter (value * 10 + digitValue digit) digits := by
  with_unfolding_all rfl

/-- The value of digits behind others is the number that they write together. -/
theorem decimalValueAfter_eq (value : Nat) (digits : List Char) :
    decimalValueAfter value digits = Nat.ofDigitChars 10 digits value := by
  induction digits generalizing value with
  | nil => rw [decimalValueAfter_nil, Nat.ofDigitChars_nil]
  | cons digit digits ih =>
    rw [decimalValueAfter_cons, ih, Nat.ofDigitChars_cons, Nat.mul_comm, digitValue]

/-- A number is written in decimal digits. -/
theorem isDigit_of_mem_toDigits {value : Nat} {char : Char}
    (member : char ∈ Nat.toDigits 10 value) : isDigit char = true :=
  Nat.isDigit_of_mem_toDigits (by decide) (by decide) member

/-- The codes of decimal digits. -/
theorem toNat_of_isDigit {char : Char} (digit : isDigit char = true) :
    0x30 ≤ char.toNat ∧ char.toNat ≤ 0x39 := by
  simp only [isDigit, Bool.and_eq_true, decide_eq_true_eq] at digit
  exact digit

/-- Digits have no plus sign in front. -/
theorem dropPlus_of_isDigit {chars : List Char}
    (digits : ∀ char ∈ chars, isDigit char = true) : dropPlus chars = chars := by
  cases chars with
  | nil => rfl
  | cons char others =>
    have other : char ≠ '+' := by
      rintro rfl
      exact absurd (digits '+' List.mem_cons_self) (by decide)
    unfold dropPlus
    split
    · rename_i same
      exact absurd (List.cons.inj same).1 other
    · rfl

/-- A number that is read is below the bound. -/
theorem readNatural?_lt {bound value : Nat} {chars : List Char}
    (read : readNatural? bound chars = some value) : value < bound := by
  simp only [readNatural?] at read
  split at read
  · cases read
  · split at read
    · rename_i below
      rwa [← Option.some.inj read]
    · cases read

/-! ## The texts of a number -/

/-- Characters that are decimal digits and write a number together. -/
structure AreDigitsOf (value : Nat) (digits : List Char) : Prop where
  /-- There is one at least. -/
  some : digits ≠ []
  /-- All of them are digits. -/
  all : ∀ digit ∈ digits, isDigit digit = true
  /-- Their value is the number, zeros in front included. -/
  worth : Nat.ofDigitChars 10 digits 0 = value

/-- The texts of a number: its digits, and a plus sign in front of them or none. -/
inductive IsNumeral (value : Nat) : List Char → Prop where
  /-- Digits alone. -/
  | plain {digits : List Char} (areDigits : AreDigitsOf value digits) : IsNumeral value digits
  /-- Digits behind a plus sign. -/
  | signed {digits : List Char} (areDigits : AreDigitsOf value digits) :
    IsNumeral value ('+' :: digits)

/-- The digits of a number are one of its texts. -/
theorem isNumeral_toString (value : Nat) : IsNumeral value (toString value).toList := by
  rw [Nat.toString_eq_repr, Nat.toList_repr]
  exact .plain ⟨Nat.toDigits_ne_nil, fun _ => isDigit_of_mem_toDigits,
    Nat.ofDigitChars_toDigits (by decide) (by decide)⟩

/-- Characters are one of a number's texts when they are its digits once a sign is dropped. -/
theorem isNumeral_iff {value : Nat} {chars : List Char} :
    IsNumeral value chars ↔ AreDigitsOf value (dropPlus chars) := by
  constructor
  · intro isNumeral
    cases isNumeral with
    | plain areDigits => rwa [dropPlus_of_isDigit areDigits.all]
    | signed areDigits => exact areDigits
  · intro areDigits
    unfold dropPlus at areDigits
    split at areDigits
    · exact .signed areDigits
    · exact .plain areDigits

/-- A number is read from its texts when it is below the bound, and from nothing else. -/
theorem readNatural?_eq_some_iff {bound value : Nat} {chars : List Char} :
    readNatural? bound chars = some value ↔ IsNumeral value chars ∧ value < bound := by
  have worth : decimalValue (dropPlus chars) = Nat.ofDigitChars 10 (dropPlus chars) 0 :=
    decimalValueAfter_eq 0 _
  rw [isNumeral_iff]
  constructor
  · intro read
    refine ⟨?_, readNatural?_lt read⟩
    simp only [readNatural?] at read
    split at read
    · cases read
    · rename_i digits
      simp only [Bool.or_eq_true, Bool.not_eq_true', not_or, Bool.not_eq_true,
        Bool.not_eq_false, List.isEmpty_eq_false_iff] at digits
      split at read
      · exact ⟨digits.1, List.all_eq_true.mp digits.2, worth.symm.trans (Option.some.inj read)⟩
      · cases read
  · rintro ⟨⟨nonempty, all, same⟩, below⟩
    have every : (dropPlus chars).all isDigit = true := List.all_eq_true.mpr all
    have filled : (dropPlus chars).isEmpty = false := List.isEmpty_eq_false_iff.mpr nonempty
    rw [← same, ← worth] at below ⊢
    simp only [readNatural?, every, filled, Bool.not_true, Bool.or_self, Bool.false_eq_true,
      if_false, if_pos below]

/-- The characters of a number's texts are signs and digits. -/
theorem IsNumeral.toNat_mem {value : Nat} {chars : List Char} (isNumeral : IsNumeral value chars)
    {char : Char} (member : char ∈ chars) :
    char = '+' ∨ 0x30 ≤ char.toNat ∧ char.toNat ≤ 0x39 := by
  cases isNumeral with
  | plain areDigits => exact .inr (toNat_of_isDigit (areDigits.all char member))
  | signed areDigits =>
    rcases List.mem_cons.mp member with sign | inDigits
    · exact .inl sign
    · exact .inr (toNat_of_isDigit (areDigits.all char inDigits))

/-- A number has no empty text. -/
theorem IsNumeral.ne_nil {value : Nat} {chars : List Char} (isNumeral : IsNumeral value chars) :
    chars ≠ [] := by
  cases isNumeral with
  | plain areDigits => exact areDigits.some
  | signed areDigits => exact List.cons_ne_nil _ _

/-! ## The number of digits -/

/-- Digits are worth less than the power of ten of their number. -/
theorem decimalValueAfter_lt {digits : List Char} (all : ∀ char ∈ digits, isDigit char = true)
    (value : Nat) : decimalValueAfter value digits < (value + 1) * 10 ^ digits.length := by
  induction digits generalizing value with
  | nil => simp [decimalValueAfter_nil]
  | cons digit digits ih =>
    obtain ⟨first, others⟩ := List.forall_mem_cons.mp all
    have small : digitValue digit ≤ 9 := Nat.sub_le_sub_right (toNat_of_isDigit first).2 0x30
    rw [decimalValueAfter_cons]
    calc decimalValueAfter (value * 10 + digitValue digit) digits
        < (value * 10 + digitValue digit + 1) * 10 ^ digits.length := ih others _
      _ ≤ (value + 1) * 10 * 10 ^ digits.length := Nat.mul_le_mul_right _ (by omega)
      _ = (value + 1) * 10 ^ (digit :: digits).length := by
        rw [List.length_cons, Nat.pow_succ, Nat.mul_assoc, Nat.mul_comm 10]

/-- A number has no more digits than the characters it is read from. -/
theorem length_toDigits_le_of_readNatural? {bound value : Nat} {chars : List Char}
    (read : readNatural? bound chars = some value) :
    (Nat.toDigits 10 value).length ≤ chars.length := by
  have shorter : (dropPlus chars).length ≤ chars.length := by
    unfold dropPlus
    split <;> simp
  have areDigits := isNumeral_iff.mp (readNatural?_eq_some_iff.mp read).1
  have below := decimalValueAfter_lt areDigits.all 0
  rw [decimalValueAfter_eq, areDigits.worth, Nat.zero_add, Nat.one_mul] at below
  have some := List.length_pos_iff.mpr areDigits.some
  exact Nat.le_trans ((Nat.length_toDigits_le_iff (by decide) some).mpr below) shorter

end ShapeScene.Text
