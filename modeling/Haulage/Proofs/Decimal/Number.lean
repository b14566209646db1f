import Haulage.Units
import Mathlib.Tactic.Common
import Mathlib.Tactic.Ring

/-! The number that a decimal writes, counted in units of the last of 28 places. Decimals that
write one number at different scales are rounded to the same integer. -/
namespace Haulage

theorem tenTo_pos (n : Nat) : 0 < tenTo n := Nat.pow_pos (by decide)

theorem tenTo_add (m n : Nat) : tenTo (m + n) = tenTo m * tenTo n := Nat.pow_add 10 m n

theorem tenTo_succ (n : Nat) : tenTo (n + 1) = tenTo n * 10 := tenTo_add n 1

theorem tenTo_sub {m n : Nat} (h : m ≤ n) : tenTo m * tenTo (n - m) = tenTo n := by
  rw [← tenTo_add, Nat.add_sub_cancel' h]

theorem tenTo_le {m n : Nat} (h : m ≤ n) : tenTo m ≤ tenTo n :=
  Nat.pow_le_pow_right (by decide) h

theorem tenTo_dvd {m n : Nat} (h : m ≤ n) : tenTo m ∣ tenTo n := Nat.pow_dvd_pow 10 h

section Rounding
variable (n d : Nat) {k : Nat}

theorem roundHalfEven_mul (pos : 0 < k) : roundHalfEven (n * k) (d * k) = roundHalfEven n d := by
  have small : 2 * (n % d * k) < d * k ↔ 2 * (n % d) < d := by
    rw [← Nat.mul_assoc, Nat.mul_lt_mul_right pos]
  have half : 2 * (n % d * k) = d * k ↔ 2 * (n % d) = d := by
    rw [← Nat.mul_assoc, Nat.mul_left_inj (Nat.ne_of_gt pos)]
  simp only [roundHalfEven, Nat.mul_mod_mul_right, Nat.mul_div_mul_right n d pos, small, half]

theorem roundHalfUp_mul (pos : 0 < k) : roundHalfUp (n * k) (d * k) = roundHalfUp n d := by
  have small : 2 * (n % d * k) < d * k ↔ 2 * (n % d) < d := by
    rw [← Nat.mul_assoc, Nat.mul_lt_mul_right pos]
  simp only [roundHalfUp, Nat.mul_mod_mul_right, Nat.mul_div_mul_right n d pos, small]

/-- A quotient that comes out even is not rounded. -/
theorem roundHalfEven_of_mul (pos : 0 < k) : roundHalfEven (n * k) k = n := by
  simp [roundHalfEven, Nat.mul_div_cancel n pos, pos]

theorem roundHalfEven_zero (pos : 0 < k) : roundHalfEven 0 k = 0 := by
  simp [roundHalfEven, pos]

theorem roundHalfEven_le : roundHalfEven n d ≤ n / d + 1 := by
  unfold roundHalfEven
  split <;> omega

theorem le_roundHalfEven : n / d ≤ roundHalfEven n d := by
  unfold roundHalfEven
  split <;> omega

variable {n d} in
/-- Rounding does not go beyond an integer. -/
theorem roundHalfEven_le_of_le {m : Nat} (pos : 0 < d) (bound : n ≤ m * d) :
    roundHalfEven n d ≤ m := by
  unfold roundHalfEven
  split
  · exact Nat.div_le_of_le_mul (by rwa [Nat.mul_comm])
  · next up =>
    have remains : 0 < n % d := by omega
    have parts := Nat.div_add_mod' n d
    have below : n / d * d < m * d := by omega
    exact Nat.lt_of_mul_lt_mul_right below

end Rounding

namespace Decimal
variable {a b : Decimal}

/-- The magnitude in units of the last of 28 places. -/
def places (a : Decimal) : Nat := a.magnitude * tenTo (28 - a.scale)

/-- The number, in the same units. -/
def number (a : Decimal) : Int := a.withSign a.places

theorem number_eq : a.number = a.mantissa * tenTo (28 - a.scale) := by
  unfold number withSign mantissa places
  split <;> simp

theorem mantissa_scaled (n : Int64) (s : Nat) (h : s ≤ 28) :
    (scaled n s h).mantissa = n.toInt := by
  have size := n.toInt.natAbs_eq
  simp only [mantissa, scaled, decide_eq_true_eq]
  split <;> omega

theorem number_scaled (n : Int64) (s : Nat) (h : s ≤ 28) :
    (scaled n s h).number = n.toInt * tenTo (28 - s) := by
  rw [number_eq, mantissa_scaled]
  rfl

theorem number_ofUInt32 (n : UInt32) : (ofUInt32 n).number = n.toNat * tenTo 28 := by
  rw [number_eq]
  rfl

theorem natAbs_number : a.number.natAbs = a.places := by
  unfold number withSign
  split <;> simp

theorem places_eq_zero : a.places = 0 ↔ a.magnitude = 0 := by
  have positive := tenTo_pos (28 - a.scale)
  rw [places, Nat.mul_eq_zero]
  omega

theorem number_eq_zero : a.number = 0 ↔ a.magnitude = 0 := by
  rw [← places_eq_zero, ← natAbs_number, Int.natAbs_eq_zero]

theorem places_congr (same : a.number = b.number) : a.places = b.places := by
  rw [← natAbs_number, ← natAbs_number, same]

/-- Only zero is written with either sign. -/
theorem negative_congr (same : a.number = b.number) (nonzero : a.magnitude ≠ 0) :
    a.negative = b.negative := by
  have some_ : a.places ≠ 0 := fun zero => nonzero (places_eq_zero.1 zero)
  unfold number withSign at same
  cases left : a.negative <;> cases right : b.negative
  case false.false => rfl
  case true.true => rfl
  all_goals
    simp only [left, right, Bool.false_eq_true, if_true, if_false] at same
    omega

theorem withSign_congr {m : Nat} (same : a.number = b.number)
    (zero : a.magnitude = 0 → m = 0) : a.withSign m = b.withSign m := by
  by_cases nonzero : a.magnitude = 0
  · simp [withSign, zero nonzero]
  · simp [withSign, negative_congr same nonzero]

theorem roundAway_eq : a.roundAway = a.withSign (roundHalfUp a.places (tenTo 28)) := by
  have scaled : tenTo 28 = tenTo a.scale * tenTo (28 - a.scale) := (tenTo_sub a.scale_le).symm
  rw [roundAway, places, scaled, roundHalfUp_mul _ _ (tenTo_pos _)]

/-- The scale at which a number is written does not matter to its rounding. -/
theorem roundAway_congr (same : a.number = b.number) : a.roundAway = b.roundAway := by
  rw [roundAway_eq, roundAway_eq, ← places_congr same]
  refine withSign_congr same fun zero => ?_
  rw [places_eq_zero.2 zero]
  decide

end Decimal
end Haulage
