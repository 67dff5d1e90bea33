import ShapeScene.Number.Layout
import ShapeScene.Proofs.Text.Natural

/-!
# The form of written numbers

A number in messages and raytracer commands is a word, or digits with a point between them at
most. So no text of a number has a blank or the end of a line in it, whatever the number is.
-/

namespace ShapeScene

/-- Decimal digits, one at least. -/
structure IsDigits (chars : List Char) : Prop where
  /-- There is one. -/
  some : chars ≠ []
  /-- There is nothing else. -/
  all : ∀ char ∈ chars, Text.isDigit char = true

/-- What a number can have behind its sign. -/
inductive IsMagnitude : List Char → Prop where
  /-- The word for infinity. -/
  | infinite : IsMagnitude ['i', 'n', 'f']
  /-- Digits. -/
  | whole {digits : List Char} (isDigits : IsDigits digits) : IsMagnitude digits
  /-- Digits before and behind a point. -/
  | parts {front behind : List Char} (frontDigits : IsDigits front)
      (behindDigits : IsDigits behind) : IsMagnitude (front ++ '.' :: behind)

/-- The texts of numbers, as a grammar. -/
inductive IsNumeral : List Char → Prop where
  /-- The word for what is no number. -/
  | nan : IsNumeral ['N', 'a', 'N']
  /-- A number without a sign. -/
  | plain {magnitude : List Char} (isMagnitude : IsMagnitude magnitude) : IsNumeral magnitude
  /-- A number with a sign. -/
  | negative {magnitude : List Char} (isMagnitude : IsMagnitude magnitude) :
    IsNumeral ('-' :: magnitude)

/-- Characters that neither separate words nor end a line. -/
def IsSolid (chars : List Char) : Prop := ∀ char ∈ chars, char ≠ ' ' ∧ char ≠ '\n'

-- not the instance that is found: it may go through all characters there are
instance (chars : List Char) : Decidable (IsSolid chars) :=
  List.decidableBAll (fun char => char ≠ ' ' ∧ char ≠ '\n') chars

/-- Digits are solid. -/
theorem IsDigits.isSolid {chars : List Char} (isDigits : IsDigits chars) : IsSolid chars := by
  intro char member
  have digit := isDigits.all char member
  constructor
  · rintro rfl
    exact absurd digit (by decide)
  · rintro rfl
    exact absurd digit (by decide)

/-- Solid characters behind one another are solid. -/
theorem IsSolid.append {front behind : List Char} (solidFront : IsSolid front)
    (solidBehind : IsSolid behind) : IsSolid (front ++ behind) := by
  intro char member
  rcases List.mem_append.mp member with inFront | inBehind
  · exact solidFront char inFront
  · exact solidBehind char inBehind

/-- What stands behind a sign is solid. -/
theorem IsMagnitude.isSolid {chars : List Char} (isMagnitude : IsMagnitude chars) :
    IsSolid chars := by
  cases isMagnitude with
  | infinite => decide
  | whole isDigits => exact isDigits.isSolid
  | parts frontDigits behindDigits =>
    have point : IsSolid ['.'] := by decide
    exact frontDigits.isSolid.append (point.append behindDigits.isSolid)

/-- The text of a number is solid. -/
theorem IsNumeral.isSolid {chars : List Char} (isNumeral : IsNumeral chars) : IsSolid chars := by
  cases isNumeral with
  | nan => decide
  | plain isMagnitude => exact isMagnitude.isSolid
  | negative isMagnitude =>
    have sign : IsSolid ['-'] := by decide
    exact sign.append isMagnitude.isSolid

/-! ## Numbers that are written -/

/-- A natural number is written in digits. -/
theorem isDigits_toDigits (value : Nat) : IsDigits (Nat.toDigits 10 value) :=
  ⟨Nat.toDigits_ne_nil, fun _ => Text.isDigit_of_mem_toDigits⟩

/-- Zeros are digits. -/
theorem isDigit_of_mem_replicate {count : Nat} {char : Char}
    (member : char ∈ List.replicate count '0') : Text.isDigit char = true := by
  rw [List.eq_of_mem_replicate member]
  decide

/-- Digits laid out without an exponent are digits, or digits around a point. -/
theorem isMagnitude_positionalText {digits : List Char} (isDigits : IsDigits digits)
    (power : Int) : IsMagnitude (NumberLayout.plain.positionalText digits power) := by
  have padded (front behind : Nat) :
      ∀ char ∈ List.replicate front '0' ++ digits ++ List.replicate behind '0',
        Text.isDigit char = true := by
    intro char member
    simp only [List.mem_append] at member
    rcases member with (zero | digit) | zero
    · exact isDigit_of_mem_replicate zero
    · exact isDigits.all char digit
    · exact isDigit_of_mem_replicate zero
  unfold NumberLayout.positionalText
  split
  · refine .whole ⟨?_, ?_⟩
    · simp [isDigits.some]
    · simpa [NumberLayout.plain] using padded 0 power.toNat
  · rename_i negative
    have length : power.natAbs <
        (List.replicate (power.natAbs + 1 - digits.length) '0' ++ digits).length := by
      rw [List.length_append, List.length_replicate]
      omega
    have all := padded (power.natAbs + 1 - digits.length) 0
    rw [List.replicate_zero, List.append_nil] at all
    refine .parts ⟨?_, fun char member => all char (List.mem_of_mem_take member)⟩
      ⟨?_, fun char member => all char (List.mem_of_mem_drop member)⟩
    · rw [← List.length_pos_iff, List.length_take]
      omega
    · rw [← List.length_pos_iff, List.length_drop]
      omega

/-- The text of a datum is the text of a number. -/
theorem Binary64.isNumeral_text (x : Binary64) : IsNumeral x.text.toList := by
  unfold Binary64.text
  split
  · exact .nan
  · split
    · split
      · exact .negative .infinite
      · exact .plain .infinite
    · have magnitude (y : Binary64) : IsMagnitude
          (if x.isZero then NumberLayout.plain.positionalText ['0'] 0
           else NumberLayout.plain.magnitudeText y) := by
        split
        · exact isMagnitude_positionalText (isDigits_toDigits 0) 0
        · exact isMagnitude_positionalText (isDigits_toDigits _) _
      rw [String.toList_ofList, NumberLayout.finiteText]
      split
      · exact .negative (magnitude (-x))
      · exact .plain (magnitude x)

/-- The text of a natural number is the text of a number. -/
theorem isNumeral_toString (value : Nat) : IsNumeral (toString value).toList := by
  rw [Nat.toString_eq_repr, Nat.toList_repr]
  exact .plain (.whole (isDigits_toDigits value))

end ShapeScene
