import Mathlib.Tactic.NormNum
import Mathlib.Tactic.Positivity
import Mathlib.Tactic.Ring
import ShapeScene.Number.Shortest

/-!
# The search for the fewest digits succeeds

The search stops on a decimal that lies in the rounding interval of its number. It has to stop: the
last of its twenty-four grids is finer than a quarter of the number's last place, and on such a grid
the lower neighbour lies in the interval.
-/

namespace ShapeScene

namespace Binary64

/-- The fraction bits of a datum. -/
theorem fraction_lt (x : Binary64) : x.fraction < 2 ^ 52 := Nat.mod_lt _ (by decide)

/-- The significand has at most fifty-three bits. -/
theorem significand_lt (x : Binary64) : x.significand < 2 ^ 53 := by
  have fraction := x.fraction_lt
  simp only [significand, Nat.pow_eq]
  split <;> omega

/-- A number that is not zero has a significand. -/
theorem significand_pos {x : Binary64} (nonzero : x.isZero = false) : 0 < x.significand := by
  simp only [significand, Nat.pow_eq]
  split
  · rename_i subnormal
    simp only [isZero, subnormal, beq_self_eq_true, Bool.true_and, beq_eq_false_iff_ne] at nonzero
    exact Nat.pos_of_ne_zero nonzero
  · positivity

/-- The places of finite data. -/
theorem exponent_bounds {x : Binary64} (finite : x.isFinite = true) :
    -1074 ≤ x.exponent ∧ x.exponent ≤ 971 := by
  simp only [isFinite, decide_eq_true_eq] at finite
  simp only [exponent]
  omega

/-- The other sign leaves the magnitude alone. -/
theorem magnitude_neg (x : Binary64) : (-x).bits.toNat % 2 ^ 63 = x.bits.toNat % 2 ^ 63 := by
  change (x.bits ^^^ 0x8000000000000000).toNat % 2 ^ 63 = x.bits.toNat % 2 ^ 63
  rw [UInt64.toNat_xor, Nat.xor_mod_two_pow,
    show (0x8000000000000000 : UInt64).toNat % 2 ^ 63 = 0 from rfl, Nat.xor_zero]

/-- The other sign leaves the exponent bits alone. -/
theorem biasedExponent_neg (x : Binary64) : (-x).biasedExponent = x.biasedExponent := by
  have same := magnitude_neg x
  simp only [biasedExponent, Nat.pow_eq]
  omega

/-- The other sign leaves the fraction bits alone. -/
theorem fraction_neg (x : Binary64) : (-x).fraction = x.fraction := by
  have same := magnitude_neg x
  simp only [fraction, Nat.pow_eq]
  omega

/-- A number stays finite with the other sign. -/
theorem isFinite_neg (x : Binary64) : (-x).isFinite = x.isFinite := by
  rw [isFinite, biasedExponent_neg, isFinite]

/-- A number stays zero or nonzero with the other sign. -/
theorem isZero_neg (x : Binary64) : (-x).isZero = x.isZero := by
  rw [isZero, biasedExponent_neg, fraction_neg, isZero]

/-- A finite number is no NaN. -/
theorem isNaN_of_isFinite {x : Binary64} (finite : x.isFinite = true) : x.isNaN = false := by
  rw [isFinite, decide_eq_true_eq] at finite
  have below : ¬ x.biasedExponent = 2047 := by omega
  rw [isNaN, beq_false_of_ne below, Bool.false_and]

/-- A finite number is no infinity. -/
theorem isInfinite_of_isFinite {x : Binary64} (finite : x.isFinite = true) :
    x.isInfinite = false := by
  rw [isFinite, decide_eq_true_eq] at finite
  have below : ¬ x.biasedExponent = 2047 := by omega
  rw [isInfinite, beq_false_of_ne below, Bool.false_and]

end Binary64

namespace Decimal

/-! ## Powers of two and ten -/

/-- Twenty-eight decimal places hold ninety-three binary ones. -/
theorem two_pow_le_ten_pow {binary decimal : Nat} (enough : 28 * binary ≤ 93 * decimal) :
    2 ^ binary ≤ 10 ^ decimal := by
  refine (Nat.pow_le_pow_iff_left (show 93 ≠ 0 by decide)).mp ?_
  calc (2 ^ binary) ^ 93 = (2 ^ 93) ^ binary := by rw [← pow_mul, ← pow_mul, mul_comm]
    _ ≤ (10 ^ 28) ^ binary := Nat.pow_le_pow_left (by norm_num) _
    _ = 10 ^ (28 * binary) := by rw [← pow_mul]
    _ ≤ 10 ^ (93 * decimal) := Nat.pow_le_pow_right (by decide) enough
    _ = (10 ^ decimal) ^ 93 := by rw [← pow_mul, mul_comm]

/-- Ten binary places hold three decimal ones. -/
theorem ten_pow_le_two_pow {binary decimal : Nat} (enough : 10 * decimal ≤ 3 * binary) :
    10 ^ decimal ≤ 2 ^ binary := by
  refine (Nat.pow_le_pow_iff_left (show 3 ≠ 0 by decide)).mp ?_
  calc (10 ^ decimal) ^ 3 = (10 ^ 3) ^ decimal := by rw [← pow_mul, ← pow_mul, mul_comm]
    _ ≤ (2 ^ 10) ^ decimal := Nat.pow_le_pow_left (by norm_num) _
    _ = 2 ^ (10 * decimal) := by rw [← pow_mul]
    _ ≤ 2 ^ (3 * binary) := Nat.pow_le_pow_right (by decide) enough
    _ = (2 ^ binary) ^ 3 := by rw [← pow_mul, mul_comm]

/-! ## The rounding interval -/

/-- The datum lies inside its interval, at least a quarter of its last place above the low end. -/
theorem RoundingInterval.low_lt_value {x : Binary64} (nonzero : x.isZero = false) :
    (RoundingInterval.of x).low < (RoundingInterval.of x).value ∧
      (RoundingInterval.of x).value < (RoundingInterval.of x).high := by
  have positive := Binary64.significand_pos nonzero
  simp only [RoundingInterval.of]
  split <;> omega

/-- The low end of an interval is positive. -/
theorem RoundingInterval.low_pos {x : Binary64} (nonzero : x.isZero = false) :
    0 < (RoundingInterval.of x).low := by
  have positive := Binary64.significand_pos nonzero
  simp only [RoundingInterval.of]
  split <;> omega

/-- What lies in an interval with a positive low end is not zero. -/
theorem RoundingInterval.digits_pos_of_holds {interval : RoundingInterval} {decimal : Decimal}
    (low : 0 < interval.low) (holds : interval.holds decimal = true) : 0 < decimal.digits := by
  apply Nat.pos_of_ne_zero
  intro zero
  have unit : 0 < Nat.pow 10 (-decimal.power).toNat * Nat.pow 2 interval.place.toNat := by
    simp only [Nat.pow_eq]
    positivity
  have scaled := Nat.mul_pos low unit
  simp only [RoundingInterval.holds, zero, Nat.zero_mul] at holds
  split at holds
  · simp only [Bool.and_eq_true, decide_eq_true_eq] at holds
    omega
  · simp at holds

/-! ## The search -/

/-- An answer on a grid lies in the interval. -/
theorem holds_of_onGrid {tie : DecimalTie} {interval : RoundingInterval} {power : Int}
    {decimal : Decimal} (found : onGrid tie interval power = some decimal) :
    interval.holds decimal = true := by
  simp only [onGrid] at found
  split at found
  · contradiction
  · rename_i lower upper
    simp only [Bool.and_eq_true] at lower
    cases found
    exact lower.2
  · rename_i lower upper
    cases found
    exact upper
  · rename_i lower upper
    simp only [Bool.and_eq_true] at lower
    cases found
    rw [apply_ite interval.holds]
    simp only [upper, lower.2, ite_self]

/-- A search that meets a grid with an answer gives an answer that lies in the interval. -/
theorem holds_onGridsFrom (tie : DecimalTie) (interval : RoundingInterval) (fuel : Nat)
    (power : Int) (last : Nat) (inside : last < fuel)
    (answered : (onGrid tie interval (power - last)).isSome = true) :
    interval.holds (onGridsFrom tie interval fuel power) = true := by
  induction fuel generalizing power last with
  | zero => omega
  | succ fuel ih =>
    rw [onGridsFrom]
    split
    · rename_i decimal found
      exact holds_of_onGrid found
    · rename_i missed
      cases last with
      | zero => simp [missed] at answered
      | succ last =>
        apply ih (power - 1) last (by omega)
        rwa [show power - 1 - (last : Int) = power - (last + 1 : Nat) by omega]

/-- A grid finer than a quarter of the last place has an answer. -/
theorem onGrid_isSome {x : Binary64} (nonzero : x.isZero = false) (tie : DecimalTie) (power : Int)
    (fine : Nat.pow 2 (-(RoundingInterval.of x).place).toNat * Nat.pow 10 power.toNat ≤
      Nat.pow 10 (-power).toNat * Nat.pow 2 (RoundingInterval.of x).place.toNat) :
    (onGrid tie (RoundingInterval.of x) power).isSome = true := by
  obtain ⟨belowValue, aboveValue⟩ := RoundingInterval.low_lt_value nonzero
  set interval := RoundingInterval.of x with named
  have below : 0 < Nat.pow 2 (-interval.place).toNat * Nat.pow 10 power.toNat := by
    simp only [Nat.pow_eq]
    positivity
  generalize grid : Nat.pow 2 (-interval.place).toNat * Nat.pow 10 power.toNat = step at *
  generalize quarter : Nat.pow 10 (-power).toNat * Nat.pow 2 interval.place.toNat = unit at *
  have value : interval.value * Nat.pow 2 interval.place.toNat * Nat.pow 10 (-power).toNat =
      interval.value * unit := by
    rw [← quarter]
    ring
  have digits := Nat.div_add_mod (interval.value * unit) step
  have remainder := Nat.mod_lt (interval.value * unit) below
  have one : interval.value * unit / step ≠ 0 := by
    have := Nat.le_mul_of_pos_left unit (show 0 < interval.value by omega)
    exact (Nat.div_pos (by omega) below).ne'
  have lower : interval.holds ⟨interval.value * unit / step, power⟩ = true := by
    have scaled : interval.value * unit / step * Nat.pow 10 power.toNat *
        Nat.pow 2 (-interval.place).toNat = step * (interval.value * unit / step) := by
      rw [← grid]
      ring
    have lowEnd : interval.low * unit + unit ≤ interval.value * unit := by
      calc interval.low * unit + unit = (interval.low + 1) * unit := by ring
        _ ≤ interval.value * unit := Nat.mul_le_mul_right _ belowValue
    have highEnd : interval.value * unit < interval.high * unit :=
      Nat.mul_lt_mul_of_pos_right aboveValue (by omega)
    simp only [RoundingInterval.holds, scaled, quarter]
    split <;> simp only [Bool.and_eq_true, decide_eq_true_eq] <;> omega
  simp only [onGrid, value, grid, lower, bne_iff_ne.mpr one, Bool.and_self]
  split <;> simp_all

/-- Twenty-three grids below the first place the grid is finer than a quarter of the last place. -/
theorem last_grid_fine {x : Binary64} (finite : x.isFinite = true) :
    Nat.pow 2 (-(x.exponent - 2)).toNat * Nat.pow 10 (placeAbove x - 23).toNat ≤
      Nat.pow 10 (-(placeAbove x - 23)).toNat * Nat.pow 2 (x.exponent - 2).toNat := by
  obtain ⟨low, high⟩ := Binary64.exponent_bounds finite
  have log : Nat.log2 x.significand < 53 := by
    rcases Nat.eq_zero_or_pos x.significand with zero | positive
    · simp [zero]
    · exact (Nat.log2_lt positive.ne').mpr x.significand_lt
  simp only [placeAbove, Nat.pow_eq]
  generalize Nat.log2 x.significand = digits at log
  generalize x.exponent = place at low high
  generalize power : ((digits : Int) + place + 1) * 30103 / 100000 + 1 - 23 = grid
  by_cases fraction : place < 2
  · rw [show grid.toNat = 0 by omega, show (place - 2).toNat = 0 by omega]
    simpa using two_pow_le_ten_pow (show 28 * (-(place - 2)).toNat ≤ 93 * (-grid).toNat by omega)
  · rw [show (-(place - 2)).toNat = 0 by omega]
    by_cases positive : 0 < grid
    · rw [show (-grid).toNat = 0 by omega]
      simpa using ten_pow_le_two_pow (show 10 * grid.toNat ≤ 3 * (place - 2).toNat by omega)
    · rw [show grid.toNat = 0 by omega, pow_zero, pow_zero, mul_one]
      exact Nat.succ_le_of_lt (by positivity)

/-- The shortest decimal of a number lies in its rounding interval. -/
theorem holds_shortest {x : Binary64} (finite : x.isFinite = true) (nonzero : x.isZero = false)
    (tie : DecimalTie) : (RoundingInterval.of x).holds (shortest tie x) = true :=
  holds_onGridsFrom tie _ 24 (placeAbove x) 23 (by decide)
    (onGrid_isSome nonzero tie _ (last_grid_fine finite))

/-- The shortest decimal of a number is not zero. -/
theorem shortest_digits_pos {x : Binary64} (finite : x.isFinite = true)
    (nonzero : x.isZero = false) (tie : DecimalTie) : 0 < (shortest tie x).digits :=
  RoundingInterval.digits_pos_of_holds (RoundingInterval.low_pos nonzero)
    (holds_shortest finite nonzero tie)

end Decimal

end ShapeScene
