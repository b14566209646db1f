import Haulage.Proofs.Decimal.Nearest
import Haulage.Proofs.Decimal.Quotient

/-! Products and quotients as numbers. A result that some decimal writes is exact. A part of an
integer always has a product, at most that integer, and other products fail only where the exact
one is too large without any places. -/
namespace Haulage

/-- Some decimal writes the number. -/
def IsDecimal (q : ℚ) : Prop := ∃ a : Decimal, a.toRat = q

namespace Decimal
variable {a b c : Decimal} {e : Nat}

/-- The nearest integer to the exact product is beyond 96 bits. -/
def Overflows (a b : Decimal) : Prop :=
  ∃ n : ℤ, NearestEven (a.toRat * b.toRat) n ∧ twoTo 96 ≤ n.natAbs

theorem signed_mul (negative : Bool) (m k : Nat) :
    signed negative (m * k) = signed negative m * k := by
  cases negative <;> simp [signed]

theorem number_mul_number (a b : Decimal) :
    a.number * b.number = signed (a.negative ^^ b.negative) (a.places * b.places) := by
  unfold number withSign signed
  cases a.negative <;> cases b.negative <;> simp

theorem number_eq_toRat (a : Decimal) : (a.number : ℚ) = a.toRat * 10 ^ 28 := by
  rw [toRat_eq_number]
  field_simp

theorem number_mul_number_of_toRat (value : a.toRat * b.toRat = c.toRat) :
    a.number * b.number = c.number * (tenTo 28 : Nat) := by
  have cast : (a.number : ℚ) * b.number = c.number * (tenTo 28 : Nat) := by
    rw [number_eq_toRat, number_eq_toRat, number_eq_toRat, ← value, cast_tenTo]
    ring
  exact_mod_cast cast

/-- A product that some decimal writes is not rounded. -/
theorem exists_mul?_of_isDecimal {q : ℚ} (short : a.scale + b.scale ≤ 47)
    (value : a.toRat * b.toRat = q) (exact_ : IsDecimal q) :
    ∃ c, a.mul? b = some c ∧ c.toRat = q := by
  by_cases zero_ : a.magnitude = 0 ∨ b.magnitude = 0
  · have nothing : a.toRat * b.toRat = 0 := by
      rwa [mul_eq_zero, toRat_eq_zero, toRat_eq_zero]
    exact ⟨zero, mul?_of_zero zero_, by rw [← value, nothing, toRat_eq_zero]; rfl⟩
  · obtain ⟨left, right⟩ := not_or.1 zero_
    obtain ⟨c', rfl⟩ := exact_
    have numbers := number_mul_number_of_toRat value
    have places : a.places * b.places = c'.places * tenTo 28 := by
      have sizes := congrArg Int.natAbs numbers
      rwa [Int.natAbs_mul, Int.natAbs_mul, natAbs_number, natAbs_number, natAbs_number,
        Int.natAbs_natCast] at sizes
    have product := number_mul? left right short
    rw [reduce?_of_places places, Option.map_some, Option.map_eq_some_iff] at product
    obtain ⟨c, product, number⟩ := product
    refine ⟨c, product, toRat_inj.2 ?_⟩
    -- Both have the magnitude of the product and its sign.
    rw [number_mul_number, places, signed_mul, ← number] at numbers
    exact Int.eq_of_mul_eq_mul_right (by decide) numbers

/-- A product is there unless it is too large. -/
theorem mul?_eq_none_iff (short : a.scale + b.scale ≤ 47) :
    a.mul? b = none ↔ Overflows a b := by
  have nearest : NearestEven (a.toRat * b.toRat) (signed (a.negative ^^ b.negative)
      (roundHalfEven (a.magnitude * b.magnitude) (tenTo (a.scale + b.scale)))) := by
    have quotient := nearestEven_roundHalfEven (a.magnitude * b.magnitude)
      (tenTo_pos (a.scale + b.scale))
    rw [tenTo_add] at quotient ⊢
    push_cast [← div_mul_div_comm] at quotient
    rw [toRat_eq, toRat_eq]
    cases a.negative <;> cases b.negative
    case false.false | true.true => simpa [signed] using quotient
    case false.true | true.false => simpa [signed] using quotient.neg
  have size (s : Bool) (n : Nat) : (signed s n).natAbs = n := by
    cases s <;> simp [signed]
  rw [mul?_eq_none short]
  constructor
  · intro large
    exact ⟨_, nearest, by rwa [size]⟩
  · rintro ⟨n, nearest', large⟩
    rwa [nearest'.unique nearest, size] at large

theorem not_negative (nonneg : 0 ≤ a.mantissa) (some_ : a.magnitude ≠ 0) : a.negative = false := by
  rw [mantissa] at nonneg
  split at nonneg
  · omega
  · next positive => exact Bool.eq_false_iff.2 positive

theorem toRat_of_not_negative (positive : a.negative = false) :
    a.toRat = a.magnitude / (tenTo a.scale : Nat) := by
  rw [toRat_eq, positive, if_neg Bool.false_ne_true]

/-- A part of an integer is there, and between 0 and the integer. -/
theorem exists_mul?_le (whole : a.scale = 0) (nonneg : 0 ≤ a.mantissa) (nonneg' : 0 ≤ b.mantissa)
    (le_one : b.mantissa ≤ tenTo b.scale) :
    ∃ c, a.mul? b = some c ∧ 0 ≤ c.toRat ∧ c.toRat ≤ a.toRat := by
  by_cases zero_ : a.magnitude = 0 ∨ b.magnitude = 0
  · have nothing : zero.toRat = 0 := toRat_eq_zero.2 rfl
    refine ⟨zero, mul?_of_zero zero_, nothing.ge, ?_⟩
    rw [nothing, toRat]
    have : (0 : ℚ) ≤ a.mantissa := by exact_mod_cast nonneg
    positivity
  · obtain ⟨left, right⟩ := not_or.1 zero_
    have positive := not_negative nonneg left
    have positive' := not_negative nonneg' right
    have within := b.scale_le
    have part : a.magnitude * b.magnitude ≤ a.magnitude * tenTo (a.scale + b.scale) := by
      simp only [mantissa, positive', Bool.false_eq_true, if_false] at le_one
      rw [whole, Nat.zero_add]
      exact Nat.mul_le_mul_left _ (by omega)
    obtain ⟨c, product, most, sign⟩ :=
      exists_mul?_of_le left right (by omega) a.magnitude_lt part
    have plus : c.negative = false := by simpa [positive, positive'] using sign
    have some_ : (0 : ℚ) < (tenTo c.scale : Nat) := by exact_mod_cast tenTo_pos _
    refine ⟨c, product, ?_, ?_⟩
    · rw [toRat_of_not_negative plus]
      positivity
    · have one : ((tenTo 0 : Nat) : ℚ) = 1 := by norm_num [tenTo]
      rw [toRat_of_not_negative plus, toRat_of_not_negative positive, whole, one, div_one,
        div_le_iff₀ some_]
      exact_mod_cast most

/-- A quotient by a power of ten is there, rounded at the last of 28 places. -/
theorem exists_div?_nearest (a : Decimal) (e : Nat) :
    ∃ b, a.div? (tenTo e) = some b ∧ NearestEven (a.toRat / 10 ^ e * 10 ^ 28) b.number := by
  obtain ⟨b, quotient, number⟩ := exists_div? a e
  refine ⟨b, quotient, ?_⟩
  have nearest := nearestEven_roundHalfEven a.places (tenTo_pos e)
  have value : a.toRat / 10 ^ e * 10 ^ 28 = a.number / (tenTo e : Nat) := by
    rw [number_eq_toRat, cast_tenTo]
    ring
  rw [value, number, Decimal.number, withSign, withSign]
  split
  · push_cast [neg_div]
    exact nearest.neg
  · exact nearest

theorem exists_div?_of_isDecimal {q : ℚ} (value : a.toRat / 10 ^ e = q) (exact_ : IsDecimal q) :
    ∃ b, a.div? (tenTo e) = some b ∧ b.toRat = q := by
  obtain ⟨c, rfl⟩ := exact_
  obtain ⟨b, quotient, nearest⟩ := exists_div?_nearest a e
  refine ⟨b, quotient, toRat_inj.2 ?_⟩
  rw [value, ← number_eq_toRat] at nearest
  exact nearest.unique (.of_int _)

theorem mantissa_nonneg : 0 ≤ a.mantissa ↔ 0 ≤ a.toRat := by
  rw [toRat, le_div_iff₀ (by positivity), zero_mul]
  norm_cast

/-- A product of factors that are not negative is not negative. -/
theorem toRat_nonneg_of_mul? (left : 0 ≤ a.toRat) (right : 0 ≤ b.toRat)
    (short : a.scale + b.scale ≤ 47) (product : a.mul? b = some c) : 0 ≤ c.toRat := by
  by_cases zero_ : a.magnitude = 0 ∨ b.magnitude = 0
  · rw [mul?_of_zero zero_] at product
    obtain rfl := Option.some.inj product
    exact (toRat_eq_zero.2 rfl).ge
  · obtain ⟨some_, some_'⟩ := not_or.1 zero_
    have positive := not_negative (mantissa_nonneg.2 left) some_
    have positive' := not_negative (mantissa_nonneg.2 right) some_'
    have sign := (parts_of_mul? some_ some_' short product).2
    have plus : c.negative = false := by simpa [positive, positive'] using sign
    rw [toRat_of_not_negative plus]
    positivity

/-- A part of what is not negative is not negative. -/
theorem toRat_nonneg_of_div? (nonneg : 0 ≤ a.toRat)
    (quotient : a.div? (tenTo e) = some b) : 0 ≤ b.toRat := by
  obtain ⟨b', quotient', number⟩ := exists_div? a e
  obtain rfl := Option.some.inj (quotient.symm.trans quotient')
  rw [toRat_eq_number, number]
  by_cases zero_ : a.magnitude = 0
  · rw [places_eq_zero.2 zero_, roundHalfEven_zero (tenTo_pos e)]
    simp [withSign]
  · rw [withSign, not_negative (mantissa_nonneg.2 nonneg) zero_, if_neg Bool.false_ne_true]
    positivity

end Decimal
end Haulage
