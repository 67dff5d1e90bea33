import ShapeScene.Proofs.Number.Whole

/-!
# Rounding up to a whole number

The nearest datum of a quotient keeps fifty-three bits of it, or as many as the least place leaves.
A whole number of fewer bits is a datum itself, so rounding does not pass it: a quotient that is not
above a whole number is not above it once it is rounded.
-/

namespace ShapeScene.Binary64

/-- The quotient rounded to an integer is one of its neighbours. -/
theorem divideToEven_le_succ (numerator denominator : Nat) :
    divideToEven numerator denominator ≤ numerator / denominator + 1 := by
  simp only [divideToEven]
  split
  · omega
  · split
    · omega
    · split <;> omega

/-- A quotient that is not above an integer is not rounded beyond it. -/
theorem divideToEven_le {numerator denominator value : Nat} (positive : 0 < denominator)
    (below : numerator ≤ value * denominator) : divideToEven numerator denominator ≤ value := by
  rcases Nat.lt_or_eq_of_le below with less | same
  · have := divideToEven_le_succ numerator denominator
    have := (Nat.div_lt_iff_lt_mul positive).mpr less
    omega
  · rw [same, divideToEven_mul value positive]

/-- A rounded quotient has the sign that it was made with. -/
theorem isNegative_ofRatio (negative : Bool) (numerator denominator : Nat) :
    (ofRatio negative numerator denominator).isNegative = negative := by
  simp only [ofRatio]
  split
  · exact isNegative_ofParts negative (by decide)
  · refine isNegative_ofParts negative (Nat.lt_of_le_of_lt (Nat.min_le_right _ _) ?_)
    decide

/-! ## The last place of a rounded quotient -/

/-- A place at which a quotient is rounded: at most fifty-three bits are left, and fewer only at the
least place there is. -/
structure IsLastPlace (numerator denominator : Nat) (place : Int) : Prop where
  /-- No place is below the least one. -/
  least : -1074 ≤ place
  /-- There are not more than fifty-three bits. -/
  few : numerator * 2 ^ (-place).toNat < 2 ^ 53 * (denominator * 2 ^ place.toNat)
  /-- Above the least place there are not fewer. -/
  many : place ≠ -1074 →
    2 ^ 52 * (denominator * 2 ^ place.toNat) ≤ numerator * 2 ^ (-place).toNat

/-- One place up, the numerator is scaled half as much or the denominator twice as much. -/
theorem scale_succ (place : Int) :
    2 ^ (-place).toNat = 2 ^ (-(place + 1)).toNat ∧ 2 ^ (place + 1).toNat = 2 ^ place.toNat * 2 ∨
      2 ^ (-place).toNat = 2 ^ (-(place + 1)).toNat * 2 ∧
        2 ^ (place + 1).toNat = 2 ^ place.toNat := by
  rcases Int.lt_or_le place 0 with negative | natural
  · right
    rw [← Nat.pow_succ, show (-place).toNat = (-(place + 1)).toNat + 1 by omega,
      show (place + 1).toNat = place.toNat by omega]
    exact ⟨rfl, rfl⟩
  · left
    rw [← Nat.pow_succ, show (-place).toNat = (-(place + 1)).toNat by omega,
      show (place + 1).toNat = place.toNat + 1 by omega]
    exact ⟨rfl, rfl⟩

/-- The place that is tried first leaves fifty-three bits or fifty-four. -/
theorem first_place {numerator denominator : Nat} (some : 0 < numerator)
    (positive : 0 < denominator) {place : Int}
    (first : max (-1074) ((Nat.log2 numerator : Int) - Nat.log2 denominator - 53) = place) :
    numerator * 2 ^ (-place).toNat < 2 ^ 54 * (denominator * 2 ^ place.toNat) ∧
      (place ≠ -1074 →
        2 ^ 52 * (denominator * 2 ^ place.toNat) ≤ numerator * 2 ^ (-place).toNat) := by
  obtain ⟨low, high⟩ := (Nat.log2_eq_iff (n := numerator) (by omega)).mp rfl
  obtain ⟨low', high'⟩ := (Nat.log2_eq_iff (n := denominator) (by omega)).mp rfl
  generalize Nat.log2 numerator = bits at *
  generalize Nat.log2 denominator = bits' at *
  constructor
  · calc numerator * 2 ^ (-place).toNat < 2 ^ (bits + 1) * 2 ^ (-place).toNat :=
          Nat.mul_lt_mul_of_pos_right high (Nat.two_pow_pos _)
      _ = 2 ^ (bits + 1 + (-place).toNat) := (Nat.pow_add ..).symm
      _ ≤ 2 ^ (54 + (bits' + place.toNat)) := Nat.pow_le_pow_right (by decide) (by omega)
      _ = 2 ^ 54 * (2 ^ bits' * 2 ^ place.toNat) := by ring
      _ ≤ 2 ^ 54 * (denominator * 2 ^ place.toNat) :=
          Nat.mul_le_mul_left _ (Nat.mul_le_mul_right _ low')
  · intro higher
    calc 2 ^ 52 * (denominator * 2 ^ place.toNat) ≤ 2 ^ 52 * (2 ^ (bits' + 1) * 2 ^ place.toNat) :=
          Nat.mul_le_mul_left _ (Nat.mul_le_mul_right _ high'.le)
      _ = 2 ^ (52 + (bits' + 1 + place.toNat)) := by ring
      _ ≤ 2 ^ (bits + (-place).toNat) := Nat.pow_le_pow_right (by decide) (by omega)
      _ = 2 ^ bits * 2 ^ (-place).toNat := Nat.pow_add ..
      _ ≤ numerator * 2 ^ (-place).toNat := Nat.mul_le_mul_right _ low

/-- A quotient is rounded at its last place, and that place gives the exponent. -/
theorem ofRatio_eq (negative : Bool) {numerator denominator : Nat} (some : 0 < numerator)
    (positive : 0 < denominator) :
    ∃ place, IsLastPlace numerator denominator place ∧
      ofRatio negative numerator denominator = ofParts negative (min
        ((place + 1074).toNat * 2 ^ 52 +
          divideToEven (numerator * 2 ^ (-place).toNat) (denominator * 2 ^ place.toNat))
        (2047 * 2 ^ 52)) := by
  have nonzero : numerator ≠ 0 := by omega
  generalize first :
    max (-1074) ((Nat.log2 numerator : Int) - Nat.log2 denominator - 53) = low
  obtain ⟨few, many⟩ := first_place some positive first
  have unit : 0 < denominator * 2 ^ low.toNat := Nat.mul_pos positive (Nat.two_pow_pos _)
  by_cases fits : numerator * 2 ^ (-low).toNat / (denominator * 2 ^ low.toNat) < 2 ^ 53
  · refine ⟨low, ⟨by omega, (Nat.div_lt_iff_lt_mul unit).mp fits, many⟩, ?_⟩
    simp only [ofRatio, if_neg nonzero, first, Nat.pow_eq, if_pos fits, infinityMagnitude]
  · refine ⟨low + 1, ⟨by omega, ?_, fun _ => ?_⟩, ?_⟩
    · rcases scale_succ low with ⟨above, below⟩ | ⟨above, below⟩
      · rw [← above, below, ← Nat.mul_assoc denominator]
        omega
      · rw [below]
        rw [above, ← Nat.mul_assoc numerator] at few
        omega
    · have wide := (Nat.le_div_iff_mul_le unit).mp (Nat.le_of_not_lt fits)
      rcases scale_succ low with ⟨above, below⟩ | ⟨above, below⟩
      · rw [← above, below, ← Nat.mul_assoc denominator]
        omega
      · rw [below]
        rw [above, ← Nat.mul_assoc numerator] at wide
        omega
    · simp only [ofRatio, if_neg nonzero, first, Nat.pow_eq, if_neg fits, infinityMagnitude]

/-! ## Whole numbers above a quotient -/

/-- The last place of a quotient is not above that of a whole number that is not below it. -/
theorem IsLastPlace.le {numerator denominator value : Nat} {place : Int}
    (last : IsLastPlace numerator denominator place) (positive : 0 < denominator)
    (some : 0 < value) (below : numerator ≤ value * denominator) :
    place ≤ (Nat.log2 value : Int) - 52 := by
  by_contra higher
  obtain ⟨-, high⟩ := (Nat.log2_eq_iff (n := value) (by omega)).mp rfl
  have many := last.many (by omega)
  have wide : denominator * 2 ^ (52 + place.toNat) ≤ denominator * (value * 2 ^ (-place).toNat) :=
    calc denominator * 2 ^ (52 + place.toNat) = 2 ^ 52 * (denominator * 2 ^ place.toNat) := by
          rw [Nat.pow_add]
          ring
      _ ≤ numerator * 2 ^ (-place).toNat := many
      _ ≤ value * denominator * 2 ^ (-place).toNat := Nat.mul_le_mul_right _ below
      _ = denominator * (value * 2 ^ (-place).toNat) := by ring
  have narrow : value * 2 ^ (-place).toNat < 2 ^ (52 + place.toNat) :=
    calc value * 2 ^ (-place).toNat < 2 ^ (Nat.log2 value + 1) * 2 ^ (-place).toNat :=
          Nat.mul_lt_mul_of_pos_right high (Nat.two_pow_pos _)
      _ = 2 ^ (Nat.log2 value + 1 + (-place).toNat) := (Nat.pow_add ..).symm
      _ ≤ 2 ^ (52 + place.toNat) := Nat.pow_le_pow_right (by decide) (by omega)
  exact absurd (Nat.le_of_mul_le_mul_left wide positive) (Nat.not_le_of_lt narrow)

/-- A quotient has no greater magnitude bits than a whole number that is not below it. -/
theorem IsLastPlace.magnitude_le {numerator denominator value : Nat} {place : Int}
    (last : IsLastPlace numerator denominator place) (positive : 0 < denominator)
    (some : 0 < value) (small : value < 2 ^ 53) (below : numerator ≤ value * denominator) :
    (place + 1074).toNat * 2 ^ 52 +
        divideToEven (numerator * 2 ^ (-place).toNat) (denominator * 2 ^ place.toNat) ≤
      (Nat.log2 value + 1022) * 2 ^ 52 + value * 2 ^ (52 - Nat.log2 value) := by
  obtain ⟨fits, low, -⟩ := significand_bounds some small
  have least := last.least
  have notAbove := last.le positive some below
  have unit : 0 < denominator * 2 ^ place.toNat := Nat.mul_pos positive (Nat.two_pow_pos _)
  by_cases same : place = (Nat.log2 value : Int) - 52
  · have shift : (-place).toNat = 52 - Nat.log2 value := by omega
    have ones : place.toNat = 0 := by omega
    have rounded : divideToEven (numerator * 2 ^ (-place).toNat)
        (denominator * 2 ^ place.toNat) ≤ value * 2 ^ (52 - Nat.log2 value) := by
      apply divideToEven_le unit
      rw [shift, ones, Nat.pow_zero, Nat.mul_one, Nat.mul_right_comm]
      exact Nat.mul_le_mul_right _ below
    omega
  · -- A lower place has a smaller exponent, which counts for more than all fifty-three bits.
    have rounded := divideToEven_le_succ (numerator * 2 ^ (-place).toNat)
      (denominator * 2 ^ place.toNat)
    have few := (Nat.div_lt_iff_lt_mul unit).mpr last.few
    omega

/-- A datum with no greater magnitude bits than a whole number is not above it. -/
theorem ratio_le_of_magnitude {magnitude value : Nat} (some : 0 < value) (small : value < 2 ^ 53)
    (bits : magnitude ≤ (Nat.log2 value + 1022) * 2 ^ 52 + value * 2 ^ (52 - Nat.log2 value)) :
    (ofParts false magnitude).ratio.1 ≤ value * (ofParts false magnitude).ratio.2 := by
  obtain ⟨fits, low, high⟩ := significand_bounds some small
  have parts : magnitude = magnitude / 2 ^ 52 * 2 ^ 52 + magnitude % 2 ^ 52 := by omega
  have part : magnitude % 2 ^ 52 < 2 ^ 52 := Nat.mod_lt _ (by decide)
  have exponent : magnitude / 2 ^ 52 < 2048 := by omega
  have biased := biasedExponent_ofParts false exponent part
  have fraction := fraction_ofParts false exponent part
  rw [← parts] at biased fraction
  generalize ofParts false magnitude = x at *
  have place : x.exponent = -((1075 - max x.biasedExponent 1 : Nat) : Int) := by
    rw [Binary64.exponent]
    omega
  have significand := x.significand_lt
  rw [ratio_of_exponent place]
  by_cases same : x.biasedExponent = Nat.log2 value + 1023
  · rw [show 1075 - max x.biasedExponent 1 = 52 - Nat.log2 value by omega]
    have normal : ¬ x.biasedExponent = 0 := by omega
    simp only [Binary64.significand, if_neg normal, Nat.pow_eq]
    omega
  · calc x.significand ≤ value * 2 ^ (52 - Nat.log2 value) * 2 := by omega
      _ = value * 2 ^ (52 - Nat.log2 value + 1) := by rw [Nat.pow_succ, Nat.mul_assoc]
      _ ≤ value * 2 ^ (1075 - max x.biasedExponent 1) :=
          Nat.mul_le_mul_left _ (Nat.pow_le_pow_right (by decide) (by omega))

/-- A quotient that is not above a whole number is not above it once it is rounded. -/
theorem ratio_ofRatio_le {numerator denominator value : Nat} (positive : 0 < denominator)
    (some : 0 < value) (small : value < 2 ^ 53) (below : numerator ≤ value * denominator) :
    (ofRatio false numerator denominator).ratio.1 ≤
      value * (ofRatio false numerator denominator).ratio.2 := by
  rcases Nat.eq_zero_or_pos numerator with nothing | nonzero
  · rw [nothing, ofRatio, if_pos rfl]
    exact ratio_le_of_magnitude some small (Nat.zero_le _)
  · obtain ⟨place, last, made⟩ := ofRatio_eq false nonzero positive
    rw [made]
    apply ratio_le_of_magnitude some small
    exact (Nat.min_le_left _ _).trans (last.magnitude_le positive some small below)

/-- A negative quotient has no natural number nearer than zero. -/
theorem roundToNat_ofRatio_negative (numerator denominator : Nat) :
    (ofRatio true numerator denominator).roundToNat = 0 := by
  rw [roundToNat, isNegative_ofRatio, Bool.or_true, if_pos rfl]

/-- A quotient that is not above a whole number is not rounded to a greater integer, once it was
rounded to a datum. -/
theorem roundToNat_ofRatio_le {numerator denominator value : Nat} (positive : 0 < denominator)
    (some : 0 < value) (small : value < 2 ^ 53) (below : numerator ≤ value * denominator) :
    (ofRatio false numerator denominator).roundToNat ≤ value := by
  rw [roundToNat]
  split
  · exact Nat.zero_le _
  · exact divideToEven_le (Nat.two_pow_pos _) (ratio_ofRatio_le positive some small below)

end ShapeScene.Binary64
