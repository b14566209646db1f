import Haulage.Proofs.Decimal.Number
import Mathlib.Algebra.Order.Field.Rat
import Mathlib.Algebra.Ring.Int.Parity
import Mathlib.Tactic.FieldSimp
import Mathlib.Tactic.Linarith
import Mathlib.Tactic.Positivity

/-! The rational number that a decimal writes, and the integer it is rounded to: the nearest one,
a half going to the even neighbour or away from zero. Either rule leaves one integer only. -/
namespace Haulage

/-- The nearest integer. Of two that are as near it is the even one. -/
structure NearestEven (q : ℚ) (n : ℤ) : Prop where
  near : |q - n| ≤ 1 / 2
  even : |q - n| = 1 / 2 → Even n

/-- The nearest integer. Of two that are as near it is the one farther from zero. -/
structure NearestAway (q : ℚ) (n : ℤ) : Prop where
  near : |q - n| ≤ 1 / 2
  away : |q - n| = 1 / 2 → |q| ≤ |(n : ℚ)|

section Nearest
variable {q : ℚ} {n m : ℤ}

/-- Only a half is as near to one integer as to another. -/
theorem half_of_near (near : |q - n| ≤ 1 / 2) (near' : |q - m| ≤ 1 / 2) (less : n < m) :
    m = n + 1 ∧ q = n + 1 / 2 := by
  obtain ⟨-, above⟩ := abs_le.1 near
  obtain ⟨below, -⟩ := abs_le.1 near'
  have next : m = n + 1 := by
    have within : (m : ℚ) ≤ n + 1 := by linarith
    have : m ≤ n + 1 := by exact_mod_cast within
    omega
  refine ⟨next, ?_⟩
  rw [next, Int.cast_add, Int.cast_one] at below
  linarith

theorem NearestEven.unique (first : NearestEven q n) (second : NearestEven q m) : n = m := by
  by_contra other
  wlog less : n < m generalizing n m
  · exact this second first (Ne.symm other) (by omega)
  obtain ⟨rfl, rfl⟩ := half_of_near first.near second.near less
  have even := first.even (by rw [add_sub_cancel_left, abs_of_pos]; norm_num)
  have even' := second.even (by push_cast; rw [abs_sub_comm, abs_of_pos] <;> linarith)
  exact absurd even (Int.even_add_one.1 even')

theorem NearestAway.unique (first : NearestAway q n) (second : NearestAway q m) : n = m := by
  by_contra other
  wlog less : n < m generalizing n m
  · exact this second first (Ne.symm other) (by omega)
  obtain ⟨rfl, rfl⟩ := half_of_near first.near second.near less
  have away := first.away (by rw [add_sub_cancel_left, abs_of_pos]; norm_num)
  have away' := second.away (by push_cast; rw [abs_sub_comm, abs_of_pos] <;> linarith)
  -- The half is farther from zero than one of its neighbours.
  rcases Int.lt_or_le n 0 with negative | positive
  · have below : (n : ℚ) + 1 ≤ 0 := by exact_mod_cast negative
    push_cast at away'
    rw [abs_of_neg (by linarith), abs_of_nonpos below] at away'
    linarith
  · have above : (0 : ℚ) ≤ n := by exact_mod_cast positive
    rw [abs_of_pos (by linarith), abs_of_nonneg above] at away
    linarith

theorem NearestEven.neg (nearest : NearestEven q n) : NearestEven (-q) (-n) := by
  have same : |-q - ((-n : ℤ) : ℚ)| = |q - n| := by
    rw [Int.cast_neg, ← neg_sub', abs_neg]
  constructor
  · rw [same]
    exact nearest.near
  · rw [same, even_neg]
    exact nearest.even

theorem NearestAway.neg (nearest : NearestAway q n) : NearestAway (-q) (-n) := by
  have same : |-q - ((-n : ℤ) : ℚ)| = |q - n| := by
    rw [Int.cast_neg, ← neg_sub', abs_neg]
  constructor
  · rw [same]
    exact nearest.near
  · rw [same, Int.cast_neg, abs_neg, abs_neg]
    exact nearest.away

/-- An integer is its own nearest. -/
theorem NearestEven.of_int (n : ℤ) : NearestEven n n := by
  constructor <;> simp

/-- No integer is between a number and its nearest. -/
theorem NearestAway.le_of_le (nearest : NearestAway q n) (le : q ≤ m) : n ≤ m := by
  obtain ⟨below, -⟩ := abs_le.1 nearest.near
  have within : (n : ℚ) < m + 1 := by linarith
  have : n < m + 1 := by exact_mod_cast within
  omega

theorem NearestAway.le_of_ge (nearest : NearestAway q n) (le : m ≤ q) : m ≤ n := by
  obtain ⟨-, above⟩ := abs_le.1 nearest.near
  have within : (m : ℚ) < n + 1 := by linarith
  have : m < n + 1 := by exact_mod_cast within
  omega

end Nearest

section Quotients
variable (n : ℕ) {d : ℕ}

/-- How far `n / d` is from an integer, in units of `1 / d`. -/
theorem abs_div_sub (pos : 0 < d) (m : ℤ) : |(n : ℚ) / d - m| = (n - m * d).natAbs / d := by
  have positive : (0 : ℚ) < d := by exact_mod_cast pos
  rw [div_sub' positive.ne', abs_div, abs_of_pos positive, Nat.cast_natAbs, mul_comm (d : ℚ)]
  push_cast
  rfl

theorem div_near_iff (pos : 0 < d) (m : ℤ) :
    |(n : ℚ) / d - m| ≤ 1 / 2 ↔ 2 * (n - m * d).natAbs ≤ d := by
  have positive : (0 : ℚ) < d := by exact_mod_cast pos
  rw [abs_div_sub n pos, div_le_div_iff₀ positive two_pos, one_mul, mul_comm]
  exact_mod_cast Iff.rfl

theorem div_half_iff (pos : 0 < d) (m : ℤ) :
    |(n : ℚ) / d - m| = 1 / 2 ↔ 2 * (n - m * d).natAbs = d := by
  have positive : (0 : ℚ) < d := by exact_mod_cast pos
  rw [abs_div_sub n pos, div_eq_div_iff positive.ne' two_ne_zero, one_mul, mul_comm]
  exact_mod_cast Iff.rfl

/-- The neighbours of a quotient are as far from it as the remainder says. -/
theorem sub_floor_mul (n d : ℕ) : (n : ℤ) - ((n / d : ℕ) : ℤ) * d = (n % d : ℕ) ∧
    (n : ℤ) - ((n / d + 1 : ℕ) : ℤ) * d = (n % d : ℕ) - d := by
  have parts : (n : ℤ) = (n / d : ℕ) * d + (n % d : ℕ) := by
    exact_mod_cast (Nat.div_add_mod' n d).symm
  constructor
  · linarith
  · push_cast at parts ⊢
    linarith

theorem nearestEven_roundHalfEven (pos : 0 < d) :
    NearestEven ((n : ℚ) / d) (roundHalfEven n d : ℕ) := by
  obtain ⟨floor, ceil⟩ := sub_floor_mul n d
  have rest := Nat.mod_lt n pos
  unfold roundHalfEven
  constructor
  · rw [div_near_iff n pos]
    split
    · rw [floor]
      omega
    · rw [ceil]
      omega
  · rw [div_half_iff n pos, Int.even_coe_nat, Nat.even_iff]
    split
    · rw [floor]
      omega
    · rw [ceil]
      omega

theorem nearestAway_roundHalfUp (pos : 0 < d) :
    NearestAway ((n : ℚ) / d) (roundHalfUp n d : ℕ) := by
  obtain ⟨floor, ceil⟩ := sub_floor_mul n d
  have rest := Nat.mod_lt n pos
  have positive : (0 : ℚ) < d := by exact_mod_cast pos
  have up : (n : ℚ) / d ≤ (n / d + 1 : ℕ) := by
    have below : n ≤ (n / d + 1) * d := by
      rw [mul_comm]
      exact (Nat.lt_mul_div_succ n pos).le
    rw [div_le_iff₀ positive]
    exact_mod_cast below
  unfold roundHalfUp
  constructor
  · rw [div_near_iff n pos]
    split
    · rw [floor]
      omega
    · rw [ceil]
      omega
  · rw [div_half_iff n pos]
    split
    · rw [floor]
      omega
    · intro _
      rw [abs_of_nonneg (by positivity), abs_of_nonneg (by positivity)]
      exact up

end Quotients

namespace Decimal
variable {a b : Decimal}

/-- The number that is written. -/
def toRat (a : Decimal) : ℚ := a.mantissa / 10 ^ a.scale

theorem cast_tenTo (n : Nat) : ((tenTo n : Nat) : ℚ) = 10 ^ n := by
  rw [tenTo]
  norm_cast

theorem toRat_eq_number (a : Decimal) : a.toRat = a.number / 10 ^ 28 := by
  have places : (10 : ℚ) ^ 28 = 10 ^ a.scale * 10 ^ (28 - a.scale) := by
    rw [← pow_add, Nat.add_sub_cancel' a.scale_le]
  rw [toRat, number_eq, places]
  push_cast [cast_tenTo]
  rw [mul_div_mul_right _ _ (by positivity)]

theorem toRat_inj : a.toRat = b.toRat ↔ a.number = b.number := by
  rw [toRat_eq_number, toRat_eq_number, div_left_inj' (by positivity)]
  norm_cast

/-- The sign is put on the magnitude. -/
theorem toRat_eq (a : Decimal) :
    a.toRat = if a.negative then -(a.magnitude / (tenTo a.scale : Nat) : ℚ)
      else a.magnitude / (tenTo a.scale : Nat) := by
  rw [toRat, mantissa, cast_tenTo]
  cases a.negative <;> simp [neg_div]

theorem nearestAway_roundAway (a : Decimal) : NearestAway a.toRat a.roundAway := by
  have nearest := nearestAway_roundHalfUp a.magnitude (tenTo_pos a.scale)
  rw [toRat_eq, roundAway, withSign]
  split
  · exact nearest.neg
  · exact nearest

theorem nearestEven_roundEven (a : Decimal) : NearestEven a.toRat a.roundEven := by
  have nearest := nearestEven_roundHalfEven a.magnitude (tenTo_pos a.scale)
  rw [toRat_eq, roundEven, withSign]
  split
  · exact nearest.neg
  · exact nearest

theorem toRat_scaled (n : Int64) (s : Nat) (h : s ≤ 28) :
    (scaled n s h).toRat = n.toInt / 10 ^ s := by
  rw [toRat, mantissa_scaled]
  rfl

theorem toRat_eq_zero : a.toRat = 0 ↔ a.magnitude = 0 := by
  rw [toRat_eq_number, div_eq_zero_iff, ← number_eq_zero]
  simp

/-- Decimals are compared by the numbers they write. -/
theorem cmp_eq_lt : a.cmp b = .lt ↔ a.toRat < b.toRat := by
  rw [toRat, toRat, div_lt_div_iff₀ (by positivity) (by positivity), cmp, compare_lt_iff_lt]
  norm_cast

theorem cmp_eq_eq : a.cmp b = .eq ↔ a.toRat = b.toRat := by
  rw [toRat, toRat, div_eq_div_iff (by positivity) (by positivity), cmp, compare_eq_iff_eq]
  norm_cast

end Decimal
end Haulage
