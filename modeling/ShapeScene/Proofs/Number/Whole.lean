import ShapeScene.Proofs.Number.Shortest

/-!
# Whole numbers

A datum holds every whole number of fewer than fifty-four bits as it is. Rounding a quotient that
is such a number finds it, so whole numbers are made and multiplied without loss.
-/

namespace ShapeScene.Binary64

/-- A finite datum is a given integer: its signed numerator is that many times its denominator. -/
def IsInt (x : Binary64) (value : Int) : Prop :=
  x.isFinite = true ∧
    (if x.isNegative then -(x.ratio.1 : Int) else x.ratio.1) = value * x.ratio.2

/-! ## The fields of a datum made of parts -/

/-- The word of a datum made of parts. -/
theorem toNat_ofParts (negative : Bool) {magnitude : Nat} (small : magnitude < 2 ^ 63) :
    (ofParts negative magnitude).bits.toNat =
      (if negative then 2 ^ 63 else 0) + magnitude := by
  simp only [ofParts, Nat.pow_eq, UInt64.toNat_ofNat']
  apply Nat.mod_eq_of_lt
  split <;> omega

/-- The sign of a datum made of parts. -/
theorem isNegative_ofParts (negative : Bool) {magnitude : Nat} (small : magnitude < 2 ^ 63) :
    (ofParts negative magnitude).isNegative = negative := by
  rw [isNegative, toNat_ofParts negative small, Nat.pow_eq]
  cases negative
  · exact decide_eq_false (by simp only [Bool.false_eq_true, if_false]; omega)
  · exact decide_eq_true (by simp only [if_true]; omega)

/-- The exponent bits of a datum made of parts. -/
theorem biasedExponent_ofParts (negative : Bool) {exponent fraction : Nat}
    (small : exponent < 2048) (part : fraction < 2 ^ 52) :
    (ofParts negative (exponent * 2 ^ 52 + fraction)).biasedExponent = exponent := by
  rw [biasedExponent, toNat_ofParts negative (by omega), Nat.pow_eq, Nat.pow_eq]
  cases negative
  · simp only [Bool.false_eq_true, if_false]
    omega
  · simp only [if_true]
    omega

/-- The fraction bits of a datum made of parts. -/
theorem fraction_ofParts (negative : Bool) {exponent fraction : Nat}
    (small : exponent < 2048) (part : fraction < 2 ^ 52) :
    (ofParts negative (exponent * 2 ^ 52 + fraction)).fraction = fraction := by
  rw [Binary64.fraction, toNat_ofParts negative (by omega), Nat.pow_eq]
  cases negative
  · simp only [Bool.false_eq_true, if_false]
    omega
  · simp only [if_true]
    omega

/-! ## Rounding a whole number -/

/-- A quotient that comes out even is not rounded. -/
theorem divideToEven_mul (value : Nat) {divisor : Nat} (positive : 0 < divisor) :
    divideToEven (value * divisor) divisor = value := by
  simp only [divideToEven, Nat.mul_mod_left, Nat.mul_zero, if_pos positive,
    Nat.mul_div_cancel _ positive]

/-- A power of two moves the highest bit. -/
theorem log2_mul_two_pow {value : Nat} (positive : 0 < value) (count : Nat) :
    Nat.log2 (value * 2 ^ count) = Nat.log2 value + count := by
  have nonzero : value ≠ 0 := by omega
  have product : value * 2 ^ count ≠ 0 := Nat.mul_ne_zero nonzero (Nat.two_pow_pos count).ne'
  obtain ⟨low, high⟩ := (Nat.log2_eq_iff nonzero).mp rfl
  rw [Nat.log2_eq_iff product]
  constructor
  · rw [Nat.pow_add]
    exact Nat.mul_le_mul_right _ low
  · rw [Nat.add_right_comm, Nat.pow_add]
    exact Nat.mul_lt_mul_of_pos_right high (Nat.two_pow_pos count)

/-- The significand of a whole number has fifty-three bits. -/
theorem significand_bounds {value : Nat} (positive : 0 < value) (small : value < 2 ^ 53) :
    Nat.log2 value ≤ 52 ∧ 2 ^ 52 ≤ value * 2 ^ (52 - Nat.log2 value) ∧
      value * 2 ^ (52 - Nat.log2 value) < 2 ^ 53 := by
  obtain ⟨low, high⟩ := (Nat.log2_eq_iff (n := value) (by omega)).mp rfl
  have fits : Nat.log2 value < 53 := (Nat.log2_lt (by omega)).mpr small
  have whole : 2 ^ Nat.log2 value * 2 ^ (52 - Nat.log2 value) = 2 ^ 52 := by
    rw [← Nat.pow_add]
    congr 1
    omega
  refine ⟨by omega, ?_, ?_⟩
  · rw [← whole]
    exact Nat.mul_le_mul_right _ low
  · calc value * 2 ^ (52 - Nat.log2 value)
        < 2 ^ (Nat.log2 value + 1) * 2 ^ (52 - Nat.log2 value) :=
          Nat.mul_lt_mul_of_pos_right high (Nat.two_pow_pos _)
      _ = 2 ^ 52 * 2 := by rw [Nat.pow_succ, Nat.mul_right_comm, whole]

/-- The implicit bit of a significand counts as one more in the exponent. -/
theorem magnitude_of_significand {place significand : Nat} (fits : place ≤ 52)
    (low : 2 ^ 52 ≤ significand) (high : significand < 2 ^ 53) :
    min ((place + 1022) * 2 ^ 52 + significand) (2047 * 2 ^ 52) =
      (place + 1023) * 2 ^ 52 + (significand - 2 ^ 52) := by
  omega

/-- A positive whole number is made exactly: its bits are shifted up to the place of the implicit
bit. -/
theorem ofRatio_whole (negative : Bool) {value : Nat} (positive : 0 < value)
    (small : value < 2 ^ 53) (scale : Nat) :
    ofRatio negative (value * 2 ^ scale) (2 ^ scale) =
      ofParts negative ((Nat.log2 value + 1023) * 2 ^ 52 +
        (value * 2 ^ (52 - Nat.log2 value) - 2 ^ 52)) := by
  obtain ⟨fits, low, high⟩ := significand_bounds positive small
  have unit : 0 < 2 ^ scale := Nat.two_pow_pos scale
  have nonzero : value * 2 ^ scale ≠ 0 := Nat.mul_ne_zero (by omega) unit.ne'
  have lowest : max (-1074) ((Nat.log2 (value * 2 ^ scale) : Int) - Nat.log2 (2 ^ scale) - 53) =
      (Nat.log2 value : Int) - 53 := by
    rw [log2_mul_two_pow positive, Nat.log2_two_pow]
    omega
  have down : (-((Nat.log2 value : Int) - 53)).toNat = 52 - Nat.log2 value + 1 := by omega
  have up : ((Nat.log2 value : Int) - 53).toNat = 0 := by omega
  -- One place lower there would be fifty-four bits.
  have tooFine : ¬ value * 2 ^ scale * 2 ^ (52 - Nat.log2 value + 1) / (2 ^ scale * 2 ^ 0) <
      2 ^ 53 := by
    have quotient : value * 2 ^ scale * 2 ^ (52 - Nat.log2 value + 1) / (2 ^ scale * 2 ^ 0) =
        value * 2 ^ (52 - Nat.log2 value) * 2 := by
      rw [Nat.pow_zero, Nat.mul_one, Nat.mul_right_comm, Nat.mul_div_cancel _ unit, Nat.pow_succ,
        Nat.mul_assoc]
    omega
  have place : (-((Nat.log2 value : Int) - 53 + 1)).toNat = 52 - Nat.log2 value := by omega
  have above : ((Nat.log2 value : Int) - 53 + 1).toNat = 0 := by omega
  have biased : ((Nat.log2 value : Int) - 53 + 1 + 1074).toNat = Nat.log2 value + 1022 := by omega
  have rounded : divideToEven (value * 2 ^ scale * 2 ^ (52 - Nat.log2 value)) (2 ^ scale * 2 ^ 0) =
      value * 2 ^ (52 - Nat.log2 value) := by
    rw [Nat.pow_zero, Nat.mul_one, Nat.mul_right_comm, divideToEven_mul _ unit]
  simp only [ofRatio, if_neg nonzero, lowest, Nat.pow_eq, down, up, if_neg tooFine, place, above,
    biased, rounded, infinityMagnitude]
  rw [magnitude_of_significand fits low high]

/-! ## Whole numbers and their products -/

/-- A finite datum with a given sign and a whole magnitude. -/
structure IsWhole (x : Binary64) (negative : Bool) (value : Nat) : Prop where
  /-- It is a number. -/
  finite : x.isFinite = true
  /-- Its sign. -/
  sign : x.isNegative = negative
  /-- Its magnitude, over a power of two. -/
  ratio : ∃ scale, x.ratio = (value * 2 ^ scale, 2 ^ scale)

/-- The magnitude of a datum whose last place is not above the ones. -/
theorem ratio_of_exponent {x : Binary64} {scale : Nat} (place : x.exponent = -(scale : Int)) :
    x.ratio = (x.significand, 2 ^ scale) := by
  have below : (-(scale : Int)).toNat = 0 := by omega
  have above : (-(-(scale : Int))).toNat = scale := by omega
  rw [ratio, place, below, above, Nat.pow_eq, Nat.pow_eq, Nat.pow_zero, Nat.mul_one]

/-- Zero is whole. -/
theorem isWhole_zero (negative : Bool) : IsWhole (zero negative) negative 0 := by
  have place : (zero negative).exponent = -((1074 : Nat) : Int) := by cases negative <;> decide
  have significand : (zero negative).significand = 0 := by cases negative <;> decide
  refine ⟨by cases negative <;> decide, by cases negative <;> decide, 1074, ?_⟩
  rw [ratio_of_exponent place, significand, Nat.zero_mul]

/-- Rounding a whole number of fewer than fifty-four bits loses nothing. -/
theorem isWhole_ofRatio (negative : Bool) {value : Nat} (small : value < 2 ^ 53) (scale : Nat) :
    IsWhole (ofRatio negative (value * 2 ^ scale) (2 ^ scale)) negative value := by
  by_cases nothing : value = 0
  · rw [nothing, Nat.zero_mul, ofRatio, if_pos rfl]
    exact isWhole_zero negative
  have positive : 0 < value := Nat.pos_of_ne_zero nothing
  obtain ⟨fits, low, high⟩ := significand_bounds positive small
  have part : value * 2 ^ (52 - Nat.log2 value) - 2 ^ 52 < 2 ^ 52 := by omega
  have bits : Nat.log2 value + 1023 < 2048 := by omega
  have biased := biasedExponent_ofParts negative bits part
  have fraction := fraction_ofParts negative bits part
  rw [ofRatio_whole negative positive small]
  have magnitude : (Nat.log2 value + 1023) * 2 ^ 52 +
      (value * 2 ^ (52 - Nat.log2 value) - 2 ^ 52) < 2 ^ 63 := by omega
  have sign := isNegative_ofParts negative magnitude
  generalize ofParts negative ((Nat.log2 value + 1023) * 2 ^ 52 +
    (value * 2 ^ (52 - Nat.log2 value) - 2 ^ 52)) = x at *
  have normal : ¬ x.biasedExponent = 0 := by omega
  have significand : x.significand = value * 2 ^ (52 - Nat.log2 value) := by
    rw [Binary64.significand, if_neg normal, fraction, Nat.pow_eq]
    omega
  have place : x.exponent = -((52 - Nat.log2 value : Nat) : Int) := by
    rw [exponent, biased]
    omega
  refine ⟨?_, sign, 52 - Nat.log2 value, ?_⟩
  · rw [isFinite, biased]
    exact decide_eq_true (by omega)
  · rw [ratio_of_exponent place, significand]

/-- How a whole number is scaled makes no difference to its rounding. -/
theorem ofRatio_scaled (negative : Bool) {value : Nat} (small : value < 2 ^ 53) (scale : Nat) :
    ofRatio negative (value * 2 ^ scale) (2 ^ scale) = ofRatio negative value 1 := by
  by_cases nothing : value = 0
  · rw [nothing, Nat.zero_mul, ofRatio, if_pos rfl, ofRatio, if_pos rfl]
  · have positive : 0 < value := Nat.pos_of_ne_zero nothing
    have unscaled := ofRatio_whole negative positive small 0
    rw [Nat.pow_zero, Nat.mul_one] at unscaled
    rw [ofRatio_whole negative positive small, unscaled]

namespace IsWhole

variable {x y : Binary64} {negative opposite : Bool} {value factor : Nat}

/-- A product of whole numbers is the whole number rounded from it. -/
theorem mul_eq (first : IsWhole x negative value) (second : IsWhole y opposite factor)
    (small : value * factor < 2 ^ 53) :
    x * y = ofRatio (negative != opposite) (value * factor) 1 := by
  obtain ⟨scale, ratio⟩ := first.ratio
  obtain ⟨scale', ratio'⟩ := second.ratio
  have above : value * 2 ^ scale * (factor * 2 ^ scale') =
      value * factor * 2 ^ (scale + scale') := by
    rw [Nat.pow_add]
    ring
  have below : 2 ^ scale * 2 ^ scale' = 2 ^ (scale + scale') := (Nat.pow_add ..).symm
  change mul x y = _
  simp only [mul, isNaN_of_isFinite first.finite, isNaN_of_isFinite second.finite,
    isInfinite_of_isFinite first.finite, isInfinite_of_isFinite second.finite, Bool.or_self,
    Bool.false_eq_true, if_false, first.sign, second.sign, ratio, ratio', above, below]
  exact ofRatio_scaled _ small _

/-- A whole number with its sign is an integer. -/
theorem isInt (whole : IsWhole x negative value) :
    x.IsInt (if negative then -(value : Int) else value) := by
  obtain ⟨scale, ratio⟩ := whole.ratio
  refine ⟨whole.finite, ?_⟩
  rw [whole.sign, ratio]
  cases negative
  · simp only [Bool.false_eq_true, if_false, Nat.cast_mul]
  · simp only [if_true, Nat.cast_mul, Int.neg_mul]

end IsWhole

/-- Small integers are made exactly. -/
theorem isWhole_ofInt {value : Int} (small : value.natAbs < 2 ^ 53) :
    IsWhole (ofInt value) (decide (value < 0)) value.natAbs := by
  have whole := isWhole_ofRatio (decide (value < 0)) small 0
  rwa [Nat.pow_zero, Nat.mul_one] at whole

/-- A small integer as a datum is that integer. -/
theorem isInt_ofInt {value : Int} (small : value.natAbs < 2 ^ 53) : (ofInt value).IsInt value := by
  have made := (isWhole_ofInt small).isInt
  have same : (if decide (value < 0) = true then -(value.natAbs : Int) else value.natAbs) =
      value := by
    by_cases negative : value < 0
    · rw [if_pos (decide_eq_true negative)]
      omega
    · rw [if_neg (by rw [decide_eq_true_eq]; exact negative)]
      omega
  rwa [same] at made

/-- The product of a small integer and a small positive number is made exactly. -/
theorem ofInt_mul_ofNat {value : Int} {factor : Nat} (positive : 0 < factor)
    (few : factor < 2 ^ 53) (small : value.natAbs * factor < 2 ^ 53) :
    ofInt value * ofNat factor = ofInt (value * factor) := by
  have first : IsWhole (ofInt value) (decide (value < 0)) value.natAbs :=
    isWhole_ofInt (Nat.lt_of_le_of_lt (Nat.le_mul_of_pos_right _ positive) small)
  have second : IsWhole (ofNat factor) false factor := by
    have whole := isWhole_ofRatio false few 0
    rwa [Nat.pow_zero, Nat.mul_one] at whole
  have sign : value * factor < 0 ↔ value < 0 := by
    constructor
    · intro below
      by_contra above
      have := Int.mul_nonneg (Int.not_lt.mp above) (Int.natCast_nonneg factor)
      omega
    · intro below
      exact Int.mul_neg_of_neg_of_pos below (Int.natCast_pos.mpr positive)
  rw [first.mul_eq second small, ofInt, Bool.bne_false, Int.natAbs_mul, Int.natAbs_natCast,
    decide_eq_decide.mpr sign]

end ShapeScene.Binary64
