import ShapeScene.Proofs.Number.Whole

/-!
# Arithmetic that stays defined

Rounding gives a number or an infinity, and multiplying or dividing by a finite number other than
zero does not leave the numbers and infinities.
-/

namespace ShapeScene.Binary64

/-- The other sign does not make a number of a NaN or a NaN of a number. -/
theorem isNaN_neg (x : Binary64) : (-x).isNaN = x.isNaN := by
  rw [isNaN, biasedExponent_neg, fraction_neg, isNaN]

/-- Magnitudes up to that of an infinity are those of numbers and infinities. -/
theorem isNaN_ofParts (negative : Bool) {magnitude : Nat}
    (most : magnitude ≤ infinityMagnitude) : (ofParts negative magnitude).isNaN = false := by
  rw [infinityMagnitude, Nat.pow_eq] at most
  have parts : magnitude = magnitude / 2 ^ 52 * 2 ^ 52 + magnitude % 2 ^ 52 := by omega
  have part : magnitude % 2 ^ 52 < 2 ^ 52 := Nat.mod_lt _ (by decide)
  have small : magnitude / 2 ^ 52 < 2048 := by omega
  rw [parts, isNaN, biasedExponent_ofParts negative small part,
    fraction_ofParts negative small part]
  by_cases greatest : magnitude / 2 ^ 52 = 2047
  · have nothing : magnitude % 2 ^ 52 = 0 := by omega
    rw [nothing]
    exact Bool.and_false _
  · rw [beq_false_of_ne greatest, Bool.false_and]

/-- An infinity is no NaN. -/
theorem isNaN_infinity (negative : Bool) : (infinity negative).isNaN = false :=
  isNaN_ofParts negative (Nat.le_refl _)

/-- Zero is no NaN. -/
theorem isNaN_zero (negative : Bool) : (zero negative).isNaN = false :=
  isNaN_ofParts negative (Nat.zero_le _)

/-- A rounded quotient is no NaN. -/
theorem isNaN_ofRatio (negative : Bool) (numerator denominator : Nat) :
    (ofRatio negative numerator denominator).isNaN = false := by
  unfold ofRatio
  split
  · exact isNaN_zero negative
  · exact isNaN_ofParts negative (Nat.min_le_right _ _)

/-- A product with a finite number other than zero is no NaN. -/
theorem isNaN_mul {x y : Binary64} (defined : x.isNaN = false) (finite : y.isFinite = true)
    (nonzero : y.isZero = false) : (x * y).isNaN = false := by
  change (mul x y).isNaN = false
  simp only [mul, defined, isNaN_of_isFinite finite, isInfinite_of_isFinite finite, nonzero,
    Bool.or_false, Bool.false_eq_true, if_false]
  split
  · rename_i infinite
    have notZero : x.isZero = false := by
      simp only [isInfinite, Bool.and_eq_true, beq_iff_eq] at infinite
      simp [isZero, infinite.1]
    rw [notZero, if_neg Bool.false_ne_true]
    exact isNaN_infinity _
  · exact isNaN_ofRatio _ _ _

/-- A quotient by a finite number other than zero is no NaN. -/
theorem isNaN_div {x y : Binary64} (defined : x.isNaN = false) (finite : y.isFinite = true)
    (nonzero : y.isZero = false) : (x / y).isNaN = false := by
  change (div x y).isNaN = false
  simp only [div, defined, isNaN_of_isFinite finite, isInfinite_of_isFinite finite, nonzero,
    Bool.or_false, Bool.false_eq_true, if_false]
  split
  · exact isNaN_infinity _
  · exact isNaN_ofRatio _ _ _

end ShapeScene.Binary64
