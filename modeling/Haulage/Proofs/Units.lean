import Haulage.Quote
import Mathlib.Tactic.Common

/-! Units counted in ten-thousandths. The quantity of so many units is that many as long as
64 bits hold it, and for a 32-bit mileage they do. -/
namespace Haulage

namespace Quantity
variable {units : Int64}

/-- The ten-thousandths of the units are a 64-bit integer. -/
def InRange (units : Int64) : Prop :=
  -twoTo 63 ≤ units.toInt * 10000 ∧ units.toInt * 10000 < twoTo 63

instance (units : Int64) : Decidable (InRange units) :=
  inferInstanceAs (Decidable (_ ∧ _))

theorem toInt_ofUnits (inRange : InRange units) :
    (ofUnits units).val.toInt = units.toInt * 10000 := by
  have bound : twoTo 63 = 9223372036854775808 := rfl
  obtain ⟨low, high⟩ := inRange
  rw [ofUnits, Int64.toInt_mul]
  exact Int.bmod_eq_of_le (by simp; omega) (by simp; omega)

theorem isZero_ofUnits (inRange : InRange units) (some_ : units ≠ 0) :
    (ofUnits units).isZero = false := by
  have bound := toInt_ofUnits inRange
  have nonzero : units.toInt ≠ 0 := fun zero => some_ (Int64.toInt_inj.1 zero)
  rw [isZero, beq_eq_false_iff_ne]
  intro zero
  rw [zero] at bound
  simp at bound
  omega

theorem toInt_ofNat_miles (miles : Miles) : (Int64.ofNat miles.toNat).toInt = miles.toNat := by
  have := miles.toNat_lt
  exact Int64.toInt_ofNat_of_lt (by omega)

theorem inRange_miles (miles : Miles) : InRange (Int64.ofNat miles.toNat) := by
  have := miles.toNat_lt
  have bound : twoTo 63 = 9223372036854775808 := rfl
  rw [InRange, toInt_ofNat_miles, bound]
  omega

end Quantity
end Haulage
