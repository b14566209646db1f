import Haulage.Proofs.Decimal.Exact
import Haulage.Proofs.Results

/-! What the steps of a charge give, as numbers, and when one of them gives nothing. A discounted
rate is always there, lies between zero and the rate and can be applied, and so are hundredths and
thousandths. -/
namespace Haulage

theorem toInt_ofInt_of_fits {n : Int} (low : -twoTo 63 ≤ n) (high : n < twoTo 63) :
    (Int64.ofInt n).toInt = n := by
  have bound : twoTo 63 = 9223372036854775808 := rfl
  rw [Int64.toInt_ofInt, Int.bmod_eq_of_le] <;> simp <;> omega

theorem int64?_eq_some {n : Int} {k : Int64} : int64? n = some k ↔ n = k.toInt := by
  have low := k.le_toInt
  have high := k.toInt_lt
  have bound : twoTo 63 = 9223372036854775808 := rfl
  unfold int64?
  constructor
  · intro fits
    split at fits
    · next within =>
      obtain rfl := Option.some.inj fits
      exact (toInt_ofInt_of_fits within.1 within.2).symm
    · contradiction
  · rintro rfl
    rw [if_pos (by omega), Int64.ofInt_toInt]

theorem roundToInt64_eq_ok {a : Decimal} {n : Int64} :
    roundToInt64 a = .ok n ↔ NearestAway a.toRat n.toInt := by
  have nearest := a.nearestAway_roundAway
  have rounded : roundToInt64 a = .ok n ↔ int64? a.roundAway = some n := by
    unfold roundToInt64
    cases int64? a.roundAway <;> simp
  rw [rounded, int64?_eq_some]
  constructor
  · intro same
    rwa [← same]
  · exact nearest.unique

theorem roundToInt64_eq_error {a : Decimal} {e : Error} : roundToInt64 a = .error e ↔
    e = .arithmetic (.amount a) ∧ ∀ n : Int64, ¬ NearestAway a.toRat n.toInt := by
  simp only [← roundToInt64_eq_ok]
  unfold roundToInt64
  cases int64? a.roundAway <;> simp [eq_comm]

/-- A rounded amount in its own unit. -/
theorem rounded_eq_ok {α : Type} {wrap : Int64 → α} (injective : Function.Injective wrap)
    {a : Decimal} {n : Int64} : (do return wrap (← roundToInt64 a)) = Except.ok (wrap n) ↔
      NearestAway a.toRat n.toInt := by
  rw [← roundToInt64_eq_ok, bind_eq_ok]
  constructor
  · rintro ⟨n', rounded, same⟩
    rwa [← injective (Except.ok.inj same)]
  · intro rounded
    exact ⟨n, rounded, rfl⟩

theorem Millicents.ofDecimal_eq_ok {a : Decimal} {m : Millicents} :
    Millicents.ofDecimal a = .ok m ↔ NearestAway a.toRat m.val.toInt :=
  rounded_eq_ok fun _ _ same => congrArg Millicents.val same

theorem Cents.ofMillicents_eq_ok {total amount : Decimal} {fee : Cents}
    (divided : total.div? 1000 = some amount) :
    Cents.ofMillicents total = .ok fee ↔ NearestAway amount.toRat fee.val.toInt := by
  rw [ofMillicents, dividedBy_eq_ok.2 divided, ok_bind]
  exact rounded_eq_ok fun _ _ same => congrArg Cents.val same

theorem Quantity.toRat_toDecimal (q : Quantity) : q.toDecimal.toRat = q.val.toInt / 10 ^ 4 :=
  Decimal.toRat_scaled _ _ _

theorem Millicents.toRat_toDecimal (m : Millicents) : m.toDecimal.toRat = m.val.toInt := by
  rw [toDecimal, Decimal.ofInt64, Decimal.toRat_scaled, pow_zero, div_one]

theorem wholeMiles_eq_ok {q : Quantity} {miles : Miles} :
    wholeMiles q = .ok miles ↔ NearestEven (q.val.toInt / 10 ^ 4) miles.toNat := by
  have nearest := q.toDecimal.nearestEven_roundEven
  rw [q.toRat_toDecimal] at nearest
  have below := miles.toNat_lt
  have bound : twoTo 32 = 2 ^ 32 := rfl
  have rounded : wholeMiles q = .ok miles ↔ q.toDecimal.roundEven = miles.toNat := by
    simp only [wholeMiles]
    split
    · rw [Except.ok.injEq, ← UInt32.toNat_inj, UInt32.toNat_ofNat']
      omega
    · simp only [reduceCtorEq, false_iff]
      omega
  rw [rounded]
  constructor
  · intro same
    rwa [← same]
  · exact nearest.unique

theorem wholeMiles_eq_error {q : Quantity} {e : Error} : wholeMiles q = .error e ↔
    e = .arithmetic (.mileage q) ∧
      ∀ miles : Miles, ¬ NearestEven (q.val.toInt / 10 ^ 4) miles.toNat := by
  simp only [← wholeMiles_eq_ok, wholeMiles]
  split <;> simp [eq_comm]

theorem times_eq_error {a b : Decimal} {e : Error} :
    times a b = .error e ↔ e = .arithmetic (.product a b) ∧ a.mul? b = none := by
  unfold times
  cases a.mul? b <;> simp [eq_comm]

theorem exists_hundredth (a : Decimal) : ∃ b, a.div? 100 = some b := by
  obtain ⟨b, quotient, -⟩ := a.exists_div? 2
  exact ⟨b, quotient⟩

theorem exists_thousandth (a : Decimal) : ∃ b, a.div? 1000 = some b := by
  obtain ⟨b, quotient, -⟩ := a.exists_div? 3
  exact ⟨b, quotient⟩

/-- Hundredweights times miles always fit. -/
theorem exists_hundredweightMiles (weight : Pounds) (miles : Miles) :
    ∃ units, times weight.toCwt (.ofUInt32 miles) = .ok units ∧ units.scale ≤ 2 := by
  have small : weight.toCwt.magnitude * (Decimal.ofUInt32 miles).magnitude < twoTo 96 := by
    have low := weight.val.le_toInt
    have high := weight.val.toInt_lt
    have heavy : weight.toCwt.magnitude ≤ 2 ^ 63 := by
      simp only [Pounds.toCwt, Decimal.scaled]
      omega
    have far : (Decimal.ofUInt32 miles).magnitude < 2 ^ 32 := miles.toNat_lt
    calc weight.toCwt.magnitude * (Decimal.ofUInt32 miles).magnitude
        ≤ 2 ^ 63 * 2 ^ 32 := Nat.mul_le_mul heavy (Nat.le_of_lt far)
      _ < twoTo 96 := by decide
  have short : weight.toCwt.scale + (Decimal.ofUInt32 miles).scale ≤ 28 := Nat.le_add_left 2 26
  obtain ⟨units, product⟩ := Decimal.exists_mul? small short
  exact ⟨units, times_eq_ok.2 product, Decimal.scale_le_of_mul? product⟩

/-- A discounted rate is there, lies between zero and the rate and can be applied. -/
theorem exists_discounted {rate : Millicents} (discount : DiscountRate) (nonneg : 0 ≤ rate.val) :
    ∃ unitRate applied, discount.discounted? rate.toDecimal = some unitRate ∧
      0 ≤ unitRate.toRat ∧ unitRate.toRat ≤ rate.val.toInt ∧
      Millicents.ofDecimal unitRate = .ok applied ∧ 0 ≤ applied.val ∧ applied.val ≤ rate.val := by
  have positive : 0 ≤ rate.toDecimal.mantissa := by
    rw [Millicents.toDecimal, Decimal.ofInt64, Decimal.mantissa_scaled]
    exact Int64.le_iff_toInt_le.1 nonneg
  obtain ⟨unitRate, product, above, below⟩ :=
    Decimal.exists_mul?_le rfl positive discount.nonneg discount.le_one
  rw [rate.toRat_toDecimal] at below
  have nearest := unitRate.nearestAway_roundAway
  have least : 0 ≤ unitRate.roundAway := nearest.le_of_ge (by simpa using above)
  have most : unitRate.roundAway ≤ rate.val.toInt := nearest.le_of_le below
  have fits : (Int64.ofInt unitRate.roundAway).toInt = unitRate.roundAway := by
    have high := rate.val.toInt_lt
    have bound : twoTo 63 = 9223372036854775808 := rfl
    exact toInt_ofInt_of_fits (by omega) (by omega)
  refine ⟨unitRate, ⟨.ofInt unitRate.roundAway⟩, product, above, below, ?_, ?_, ?_⟩
  · rw [Millicents.ofDecimal_eq_ok, fits]
    exact nearest
  · rw [Int64.le_iff_toInt_le, fits]
    exact least
  · rw [Int64.le_iff_toInt_le, fits]
    exact most

/-- A hundredth of a machine integer with a few places is exact. -/
theorem exists_hundredth_scaled (n : Int64) (s : Nat) (few : s ≤ 19) :
    ∃ b, dividedBy (.scaled n s (by omega)) 100 = .ok b ∧ b.toRat = n.toInt / 10 ^ (s + 2) ∧
      b.scale ≤ s + 9 := by
  have value : (Decimal.scaled n s (by omega)).toRat / 10 ^ 2 = n.toInt / 10 ^ (s + 2) := by
    rw [Decimal.toRat_scaled, pow_add, div_div]
  obtain ⟨b, quotient, exact_⟩ :=
    Decimal.exists_div?_of_isDecimal value ⟨_, Decimal.toRat_scaled n (s + 2) (by omega)⟩
  have small : (Decimal.scaled n s (by omega)).magnitude * tenTo 9 < twoTo 96 := by
    have low := n.le_toInt
    have high := n.toInt_lt
    have size : n.toInt.natAbs ≤ 2 ^ 63 := by omega
    calc n.toInt.natAbs * tenTo 9 ≤ 2 ^ 63 * tenTo 9 := Nat.mul_le_mul_right _ size
      _ < twoTo 96 := by decide
  have places : (Decimal.scaled n s (by omega)).scale + 9 ≤ 28 := by
    show s + 9 ≤ 28
    omega
  exact ⟨b, dividedBy_eq_ok.2 quotient, exact_,
    Decimal.scale_le_of_div?_tenTo (by decide) places small quotient⟩

theorem Quantity.exists_hundredth (q : Quantity) :
    ∃ b, dividedBy q.toDecimal 100 = .ok b ∧ b.toRat = q.val.toInt / 10 ^ 6 ∧ b.scale ≤ 13 :=
  exists_hundredth_scaled q.val 4 (by decide)

theorem Cents.exists_hundredth (c : Cents) :
    ∃ b, dividedBy c.toDecimal 100 = .ok b ∧ b.toRat = c.val.toInt / 10 ^ 2 ∧ b.scale ≤ 9 :=
  exists_hundredth_scaled c.val 0 (by decide)

namespace LineItem
variable {item : LineItem} {unit : MeasurementUnit} {units : Decimal} {miles : Option Miles} {u : ℚ}

/-- The units that are billed, as a number. -/
def units? (item : LineItem) : MeasurementUnit → Option ℚ
  | .weight => some (item.quantity1.val.toInt / 10 ^ 6)
  | .weightDistance | .days =>
    some (item.quantity1.val.toInt * item.quantity2.val.toInt / 10 ^ 10)
  | .volume | .each | .distance => some (item.quantity1.val.toInt / 10 ^ 4)
  | .flat => some 1
  | .actualCost => (item.actualAmount.or item.estimateAmount).map fun cents => cents.val.toInt / 100

/-- The mileage that chooses the band, for what is charged by distance. -/
inductive Banded (item : LineItem) : MeasurementUnit → Option Miles → Prop
  | weightDistance {miles : Miles}
      (nearest : NearestEven (item.quantity2.val.toInt / 10 ^ 4) miles.toNat) :
      Banded item .weightDistance (some miles)
  | distance {miles : Miles}
      (nearest : NearestEven (item.quantity1.val.toInt / 10 ^ 4) miles.toNat) :
      Banded item .distance (some miles)
  | unbanded {unit : MeasurementUnit} (weightDistance : unit ≠ .weightDistance)
      (distance : unit ≠ .distance) : Banded item unit none

/-- The units of a bill without the mileage. -/
def billed (item : LineItem) : MeasurementUnit → Except Error Decimal
  | .weight => dividedBy item.quantity1.toDecimal 100
  | .weightDistance | .days => do
    times (← dividedBy item.quantity1.toDecimal 100) item.quantity2.toDecimal
  | .volume | .each | .distance => .ok item.quantity1.toDecimal
  | .flat => .ok .one
  | .actualCost => do dividedBy (← item.billedAmount).toDecimal 100

/-- The mileage of a bill without the units. -/
def band (item : LineItem) : MeasurementUnit → Except Error (Option Miles)
  | .weightDistance => do return some (← wholeMiles item.quantity2)
  | .distance => do return some (← wholeMiles item.quantity1)
  | _ => .ok none

theorem billingUnits_eq (tariff : TariffItem) (item : LineItem) : billingUnits tariff item = do
    let units ← item.billed tariff.measurementUnit
    return (units, ← item.band tariff.measurementUnit) := by
  unfold billingUnits
  cases tariff.measurementUnit <;>
    simp only [billed, band, bind_assoc, pure_bind, ok_bind]

theorem band_eq_ok : item.band unit = .ok miles ↔ item.Banded unit miles := by
  constructor
  · intro banded
    cases unit
    case weightDistance =>
      obtain ⟨miles, whole, same⟩ := bind_eq_ok.1 banded
      obtain rfl := Except.ok.inj same
      exact .weightDistance (wholeMiles_eq_ok.1 whole)
    case distance =>
      obtain ⟨miles, whole, same⟩ := bind_eq_ok.1 banded
      obtain rfl := Except.ok.inj same
      exact .distance (wholeMiles_eq_ok.1 whole)
    all_goals
      obtain rfl := Except.ok.inj banded
      exact .unbanded (by decide) (by decide)
  · intro banded
    cases banded with
    | weightDistance nearest => exact bind_eq_ok.2 ⟨_, wholeMiles_eq_ok.2 nearest, rfl⟩
    | distance nearest => exact bind_eq_ok.2 ⟨_, wholeMiles_eq_ok.2 nearest, rfl⟩
    | unbanded weightDistance distance =>
      cases unit
      case weightDistance => contradiction
      case distance => contradiction
      all_goals rfl

theorem billingUnits_eq_ok {tariff : TariffItem} : billingUnits tariff item = .ok (units, miles) ↔
    item.billed tariff.measurementUnit = .ok units ∧
      item.Banded tariff.measurementUnit miles := by
  rw [billingUnits_eq, ← band_eq_ok, bind_eq_ok]
  constructor
  · rintro ⟨_, billed, parts⟩
    obtain ⟨_, banded, same⟩ := bind_eq_ok.1 parts
    obtain ⟨rfl, rfl⟩ := Prod.mk.inj (Except.ok.inj same)
    exact ⟨billed, banded⟩
  · rintro ⟨billed, banded⟩
    exact ⟨units, billed, bind_eq_ok.2 ⟨miles, banded, rfl⟩⟩

theorem billedAmount_eq_ok {cents : Cents} :
    item.billedAmount = .ok cents ↔ item.actualAmount.or item.estimateAmount = some cents := by
  unfold billedAmount
  cases item.actualAmount.or item.estimateAmount <;> simp

/-- Units that some decimal writes are billed exactly. -/
theorem exists_billed (known : item.units? unit = some u) (exact_ : IsDecimal u) :
    ∃ units, item.billed unit = .ok units ∧ units.toRat = u := by
  obtain ⟨cwt, divided, value, short⟩ := item.quantity1.exists_hundredth
  have product (here : item.quantity1.val.toInt * item.quantity2.val.toInt / 10 ^ 10 = u) :
      ∃ units, times cwt item.quantity2.toDecimal = .ok units ∧ units.toRat = u := by
    have factors : cwt.toRat * item.quantity2.toDecimal.toRat = u := by
      rw [value, Quantity.toRat_toDecimal, ← here]
      ring
    have places : item.quantity2.toDecimal.scale = 4 := rfl
    obtain ⟨units, multiplied, same⟩ :=
      Decimal.exists_mul?_of_isDecimal (by omega) factors exact_
    exact ⟨units, times_eq_ok.2 multiplied, same⟩
  cases unit
  case weight => exact ⟨cwt, divided, value.trans (Option.some.inj known)⟩
  case weightDistance | days =>
    rw [billed, divided, ok_bind]
    exact product (Option.some.inj known)
  case volume | each | distance =>
    exact ⟨_, rfl, item.quantity1.toRat_toDecimal.trans (Option.some.inj known)⟩
  case flat =>
    refine ⟨.one, rfl, ?_⟩
    rw [← Option.some.inj known]
    simp [Decimal.toRat, Decimal.mantissa, Decimal.one]
  case actualCost =>
    obtain ⟨cents, given, rfl⟩ := Option.map_eq_some_iff.1 known
    obtain ⟨units, divided, value, -⟩ := cents.exists_hundredth
    refine ⟨units, ?_, by rw [value]; norm_num⟩
    rw [billed, billedAmount_eq_ok.2 given, ok_bind, divided]

/-- Units have so few places that no product with them has more than 47, where the product of two
short factors would be zero. -/
theorem scale_le_of_billed (billed : item.billed unit = .ok units) : units.scale ≤ 17 := by
  obtain ⟨cwt, divided, -, short⟩ := item.quantity1.exists_hundredth
  have places : item.quantity2.toDecimal.scale = 4 := rfl
  cases unit
  case weight =>
    rw [LineItem.billed, divided] at billed
    obtain rfl := Except.ok.inj billed
    omega
  case weightDistance | days =>
    rw [LineItem.billed, divided, ok_bind, times_eq_ok] at billed
    have := Decimal.scale_le_of_mul? billed
    omega
  case volume | each | distance =>
    obtain rfl := Except.ok.inj billed
    exact Nat.le_add_left 4 13
  case flat =>
    obtain rfl := Except.ok.inj billed
    exact Nat.zero_le _
  case actualCost =>
    obtain ⟨cents, -, quotient⟩ := bind_eq_ok.1 billed
    obtain ⟨b, divided, -, short⟩ := cents.exists_hundredth
    rw [divided] at quotient
    obtain rfl := Except.ok.inj quotient
    omega

theorem exists_units_of_billed (billed : item.billed unit = .ok units) :
    ∃ u, item.units? unit = some u := by
  cases unit
  case actualCost =>
    obtain ⟨cents, given, -⟩ := bind_eq_ok.1 billed
    exact ⟨_, Option.map_eq_some_iff.2 ⟨cents, billedAmount_eq_ok.1 given, rfl⟩⟩
  all_goals exact ⟨_, rfl⟩

end LineItem
end Haulage
