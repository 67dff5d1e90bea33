import Mathlib.Algebra.Group.Nat.Defs
import ShapeScene.Text.Natural

/-!
# Padded digits

Numbers that are written with zeros in front, in as many digits as the largest of them needs, are in
the order of their texts. That is what the padding is for: without it 10 would stand before 9.
-/

namespace ShapeScene.Text

/-- Digits are in the order of their values. -/
theorem digitChar_lt : ∀ high < 10, ∀ low < high, Nat.digitChar low < Nat.digitChar high := by
  decide

/-- A digit is written by itself. -/
theorem paddedDigits_one {digit : Nat} (small : digit < 10) :
    paddedDigits 1 digit = [Nat.digitChar digit] := by
  rw [paddedDigits, Nat.toDigits_of_lt_base small]
  rfl

/-- The last digit comes behind the digits of the rest, which are padded. -/
theorem paddedDigits_concat (width value : Nat) :
    paddedDigits (width + 2) value =
      paddedDigits (width + 1) (value / 10) ++ [Nat.digitChar (value % 10)] := by
  by_cases single : value < 10
  · have rest : value / 10 = 0 := Nat.div_eq_of_lt single
    rw [paddedDigits, paddedDigits, rest, Nat.toDigits_zero, Nat.toDigits_of_lt_base single,
      Nat.mod_eq_of_lt single]
    exact congrArg (· ++ _) List.replicate_succ'
  · have zeros (count : Nat) : width + 2 - (count + 1) = width + 1 - count := by omega
    rw [paddedDigits, paddedDigits, Nat.toDigits_of_base_le (by decide) (Nat.not_lt.mp single)]
    simp only [List.length_append, List.length_singleton, zeros, List.append_assoc]

/-- Of two numbers with room for all their digits the lower one comes first, whatever is behind. -/
theorem paddedDigits_append_lt {width low high : Nat} (below : low < high)
    (fits : high < 10 ^ width) (first second : List Char) :
    paddedDigits width low ++ first < paddedDigits width high ++ second := by
  cases width with
  | zero => omega
  | succ width =>
    induction width generalizing low high first second with
    | zero =>
      rw [paddedDigits_one (by omega), paddedDigits_one (by omega)]
      exact List.cons_lt_cons_iff.mpr (.inl (digitChar_lt high (by omega) low below))
    | succ width ih =>
      rw [paddedDigits_concat, paddedDigits_concat, List.append_assoc, List.append_assoc]
      rcases Nat.lt_or_eq_of_le (Nat.div_le_div_right (c := 10) (Nat.le_of_lt below)) with
        lower | same
      · refine ih lower _ _ ?_
        rw [Nat.pow_succ] at fits
        exact Nat.div_lt_of_lt_mul (by omega)
      · -- Then the last digits decide.
        rw [same]
        apply List.append_left_lt
        have last : low % 10 < high % 10 := by omega
        exact List.cons_lt_cons_iff.mpr (.inl (digitChar_lt _ (Nat.mod_lt _ (by decide)) _ last))

end ShapeScene.Text
