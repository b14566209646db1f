import Haulage.Proofs.Charges
import Haulage.Proofs.Rates.Lookup

/-! What can put a charge out of range: its units, its total, a mileage or its fee. What is computed
without a check, the discounted rate and the quotients, is defined for every input. -/
namespace Haulage

/-- The total of so many discounted units, or its cents, are out of range. -/
inductive DiscountRate.Exceeds (discount : DiscountRate) (rate : Millicents) (units : Decimal) :
    OutOfRange → Prop
  | total {unitRate : Decimal} (discounted : discount.discounted? rate.toDecimal = some unitRate)
      (large : unitRate.Overflows units) : Exceeds discount rate units (.product unitRate units)
  | fee {unitRate total amount : Decimal}
      (discounted : discount.discounted? rate.toDecimal = some unitRate)
      (multiplied : unitRate.mul? units = some total) (divided : total.div? 1000 = some amount)
      (large : ∀ fee : Int64, ¬ NearestAway amount.toRat fee.toInt) :
      Exceeds discount rate units (.amount amount)

/-- The product of the quantities is out of range, or the one that counts miles. -/
inductive LineItem.Exceeds (item : LineItem) : MeasurementUnit → OutOfRange → Prop
  | units {unit : MeasurementUnit} {cwt : Decimal} (product : unit = .weightDistance ∨ unit = .days)
      (divided : item.quantity1.toDecimal.div? 100 = some cwt)
      (large : cwt.Overflows item.quantity2.toDecimal) :
      Exceeds item unit (.product cwt item.quantity2.toDecimal)
  | weightDistance
      (none_ : ∀ miles : Miles, ¬ NearestEven (item.quantity2.val.toInt / 10 ^ 4) miles.toNat) :
      Exceeds item .weightDistance (.mileage item.quantity2)
  | distance
      (none_ : ∀ miles : Miles, ¬ NearestEven (item.quantity1.val.toInt / 10 ^ 4) miles.toNat) :
      Exceeds item .distance (.mileage item.quantity1)

section Causes
variable {cause : OutOfRange} {rate : Millicents} {discount : DiscountRate} {units : Decimal}
  {item : LineItem} {unit : MeasurementUnit} {tariff : TariffItem}

theorem Error.invalid_ne_arithmetic {field text : String} :
    Error.invalid field text ≠ .arithmetic cause := by
  simp [Error.invalid]

theorem require_ne_arithmetic {α : Type} {subject : Subject} {id : String} {found : Option α} :
    require subject id found ≠ .error (.arithmetic cause) := by
  cases found <;> simp [require]

theorem Shipment.fact_ne_arithmetic {α : Type} {field text : String} {known : Option α} :
    Shipment.fact field text known ≠ .error (.arithmetic cause) := by
  cases known <;> simp [Shipment.fact, Error.invalid]

theorem RateTable.rate_ne_arithmetic {t : RateTable} {code : String} {weight : Pounds} {date : Date}
    {miles : Option Miles} : t.rate code weight date miles ≠ .error (.arithmetic cause) := by
  simp only [RateTable.rate]
  split <;> simp

theorem exceeds_of_discountedCharge (nonneg : 0 ≤ rate.val) (short : units.scale ≤ 19)
    (failed : discountedCharge rate units discount = .error (.arithmetic cause)) :
    discount.Exceeds rate units cause := by
  obtain ⟨unitRate, applied, discounted, -, -, converted, -, -⟩ := exists_discounted discount nonneg
  have within := unitRate.scale_le
  rw [discountedCharge, times_eq_ok.2 discounted, ok_bind, bind_eq_error] at failed
  rcases failed with failed | ⟨total, multiplied, failed⟩
  · obtain ⟨same, none_⟩ := times_eq_error.1 failed
    obtain rfl := Error.arithmetic.inj same
    exact .total discounted ((Decimal.mul?_eq_none_iff (by omega)).1 none_)
  · rw [converted, bind_eq_error] at failed
    rcases failed with failed | ⟨fee, -, failed⟩
    · obtain ⟨amount, divided⟩ := exists_thousandth total
      rw [Cents.ofMillicents, dividedBy_eq_ok.2 divided, ok_bind, bind_eq_error] at failed
      rcases failed with failed | ⟨_, -, failed⟩
      · obtain ⟨same, large⟩ := roundToInt64_eq_error.1 failed
        obtain rfl := Error.arithmetic.inj same
        exact .fee discounted (times_eq_ok.1 multiplied) divided large
      · contradiction
    · contradiction

theorem exceeds_of_billed (failed : item.billed unit = .error (.arithmetic cause)) :
    item.Exceeds unit cause := by
  obtain ⟨cwt, divided, -, short⟩ := item.quantity1.exists_hundredth
  have places : item.quantity2.toDecimal.scale = 4 := rfl
  have product (kind : unit = .weightDistance ∨ unit = .days)
      (failed : times cwt item.quantity2.toDecimal = .error (.arithmetic cause)) :
      item.Exceeds unit cause := by
    obtain ⟨same, none_⟩ := times_eq_error.1 failed
    obtain rfl := Error.arithmetic.inj same
    exact .units kind (dividedBy_eq_ok.1 divided) ((Decimal.mul?_eq_none_iff (by omega)).1 none_)
  cases unit
  case weight =>
    rw [LineItem.billed, divided] at failed
    contradiction
  case weightDistance =>
    rw [LineItem.billed, divided, ok_bind] at failed
    exact product (.inl rfl) failed
  case days =>
    rw [LineItem.billed, divided, ok_bind] at failed
    exact product (.inr rfl) failed
  case volume | each | distance | flat => contradiction
  case actualCost =>
    rw [LineItem.billed, bind_eq_error] at failed
    rcases failed with failed | ⟨cents, -, failed⟩
    · unfold LineItem.billedAmount at failed
      split at failed
      · contradiction
      · exact absurd (Except.error.inj failed) Error.invalid_ne_arithmetic
    · obtain ⟨b, divided, -⟩ := cents.exists_hundredth
      rw [divided] at failed
      contradiction

theorem exceeds_of_band (failed : item.band unit = .error (.arithmetic cause)) :
    item.Exceeds unit cause := by
  cases unit
  case weightDistance =>
    rw [LineItem.band, bind_eq_error] at failed
    rcases failed with failed | ⟨miles, -, failed⟩
    · obtain ⟨same, none_⟩ := wholeMiles_eq_error.1 failed
      obtain rfl := Error.arithmetic.inj same
      exact .weightDistance none_
    · contradiction
  case distance =>
    rw [LineItem.band, bind_eq_error] at failed
    rcases failed with failed | ⟨miles, -, failed⟩
    · obtain ⟨same, none_⟩ := wholeMiles_eq_error.1 failed
      obtain rfl := Error.arithmetic.inj same
      exact .distance none_
    · contradiction
  all_goals contradiction

theorem exceeds_of_billingUnits (failed : billingUnits tariff item = .error (.arithmetic cause)) :
    item.Exceeds tariff.measurementUnit cause := by
  rw [LineItem.billingUnits_eq, bind_eq_error] at failed
  rcases failed with failed | ⟨units, -, failed⟩
  · exact exceeds_of_billed failed
  · rcases bind_eq_error.1 failed with failed | ⟨miles, -, failed⟩
    · exact exceeds_of_band failed
    · contradiction

end Causes

namespace Calculator
variable {c : Calculator} {shipment : Shipment} {miles : Miles} {item : LineItem}
  {discount : DiscountRate} {cause : OutOfRange}

/-- No rate of the table is negative. -/
def RatesNonneg (c : Calculator) : Prop :=
  ∀ code weight date miles rate, c.rates.rate code weight date miles = .ok rate → 0 ≤ rate.val

theorem ratesNonneg_of_accepted {data : ReferenceData}
    (accepted : RateTable.ofReference data = .ok c.rates) : c.RatesNonneg :=
  fun _ _ _ _ _ found => RateTable.rate_nonneg accepted found

theorem exceeds_of_shipmentCharge (nonneg : c.RatesNonneg)
    (failed : c.shipmentCharge shipment miles discount = .error (.arithmetic cause)) :
    ∃ weight date rate units, shipment.netWeight = some weight ∧ shipment.bookDate = some date ∧
      c.rates.rate c.linehaulCode weight date (some miles) = .ok rate ∧
      weight.toCwt.mul? (.ofUInt32 miles) = some units ∧ discount.Exceeds rate units cause := by
  rw [shipmentCharge] at failed
  obtain ⟨weight, weighed, failed⟩ := exists_of_bind_eq_error Shipment.fact_ne_arithmetic failed
  obtain ⟨date, booked, failed⟩ := exists_of_bind_eq_error Shipment.fact_ne_arithmetic failed
  obtain ⟨rate, found, failed⟩ := exists_of_bind_eq_error RateTable.rate_ne_arithmetic failed
  obtain ⟨units, product, short⟩ := exists_hundredweightMiles weight miles
  rw [product, ok_bind] at failed
  have exceeds := exceeds_of_discountedCharge (nonneg _ _ _ _ _ found) (by omega) failed
  exact ⟨weight, date, rate, units, Shipment.requireNetWeight_eq_ok.1 weighed,
    Shipment.requireBookDate_eq_ok.1 booked, found, times_eq_ok.1 product, exceeds⟩

theorem exceeds_of_lineItemCharge (nonneg : c.RatesNonneg)
    (failed : c.lineItemCharge item shipment discount = .error (.arithmetic cause)) :
    ∃ tariff, c.rates.tariffItem item.tariffCode = .ok tariff ∧
      (item.Exceeds tariff.measurementUnit cause ∨ ∃ weight date units miles rate,
        shipment.netWeight = some weight ∧ shipment.bookDate = some date ∧
        billingUnits tariff item = .ok (units, miles) ∧
        c.rates.rate tariff.code weight date miles = .ok rate ∧
        DiscountRate.Exceeds (if tariff.discountType = .nonDiscountable then .full else discount)
          rate units cause) := by
  rw [lineItemCharge] at failed
  obtain ⟨tariff, known, failed⟩ := exists_of_bind_eq_error require_ne_arithmetic failed
  obtain ⟨weight, weighed, failed⟩ := exists_of_bind_eq_error Shipment.fact_ne_arithmetic failed
  obtain ⟨date, booked, failed⟩ := exists_of_bind_eq_error Shipment.fact_ne_arithmetic failed
  refine ⟨tariff, known, ?_⟩
  rcases bind_eq_error.1 failed with failed | ⟨⟨units, miles⟩, billed, failed⟩
  · exact .inl (exceeds_of_billingUnits failed)
  obtain ⟨rate, found, failed⟩ := exists_of_bind_eq_error RateTable.rate_ne_arithmetic failed
  have short := LineItem.scale_le_of_billed (LineItem.billingUnits_eq_ok.1 billed).1
  have exceeds := exceeds_of_discountedCharge (nonneg _ _ _ _ _ found) (by omega) failed
  exact .inr ⟨weight, date, units, miles, rate, Shipment.requireNetWeight_eq_ok.1 weighed,
    Shipment.requireBookDate_eq_ok.1 booked, billed, found, exceeds⟩

/-- What is not checked is defined for every input. A discounted rate lies between zero and the
rate and can be applied, and there are hundredths and thousandths of every decimal. So it is only
its units, its total, a mileage or its fee that puts a charge out of range. -/
theorem outOfRange_causes (nonneg : c.RatesNonneg) :
    (∀ (rate : Millicents) (discount : DiscountRate), 0 ≤ rate.val →
      ∃ unitRate applied, discount.discounted? rate.toDecimal = some unitRate ∧
        0 ≤ unitRate.toRat ∧ unitRate.toRat ≤ rate.val.toInt ∧
        Millicents.ofDecimal unitRate = .ok applied ∧
        0 ≤ applied.val ∧ applied.val ≤ rate.val) ∧
    (∀ a : Decimal, (∃ b, a.div? 100 = some b) ∧ ∃ b, a.div? 1000 = some b) ∧
    (∀ shipment miles discount cause,
      c.shipmentCharge shipment miles discount = .error (.arithmetic cause) →
      ∃ weight date rate units, shipment.netWeight = some weight ∧ shipment.bookDate = some date ∧
        c.rates.rate c.linehaulCode weight date (some miles) = .ok rate ∧
        weight.toCwt.mul? (.ofUInt32 miles) = some units ∧ discount.Exceeds rate units cause) ∧
    ∀ item shipment discount cause,
      c.lineItemCharge item shipment discount = .error (.arithmetic cause) →
      ∃ tariff, c.rates.tariffItem item.tariffCode = .ok tariff ∧
        (item.Exceeds tariff.measurementUnit cause ∨ ∃ weight date units miles rate,
          shipment.netWeight = some weight ∧ shipment.bookDate = some date ∧
          billingUnits tariff item = .ok (units, miles) ∧
          c.rates.rate tariff.code weight date miles = .ok rate ∧
          DiscountRate.Exceeds (if tariff.discountType = .nonDiscountable then .full else discount)
            rate units cause) := by
  refine ⟨?_, ?_, ?_, ?_⟩
  · intro rate discount positive
    exact exists_discounted discount positive
  · intro a
    exact ⟨exists_hundredth a, exists_thousandth a⟩
  · intro shipment miles discount cause failed
    exact exceeds_of_shipmentCharge nonneg failed
  · intro item shipment discount cause failed
    exact exceeds_of_lineItemCharge nonneg failed

/-- The largest rate under a discount with all places: the product does not fit and is rounded to
just the rate. The fee for 4000 pounds over a hundred miles is out of range. -/
theorem outOfRange_causes_extreme :
    let rate : Millicents := ⟨Int64.maxValue⟩
    let discount : DiscountRate :=
      ⟨⟨false, tenTo 28 - 1, 28, by decide, by decide⟩, by decide, by decide⟩
    let data := { Sample.reference with rates := [{ Sample.tariffRate "LHS" with rate := rate }] }
    ∃ c : Calculator, RateTable.ofReference data = .ok c.rates ∧ c.RatesNonneg ∧
      twoTo 96 ≤ rate.toDecimal.magnitude * discount.value.magnitude ∧
      (∃ unitRate applied, discount.discounted? rate.toDecimal = some unitRate ∧
        Millicents.ofDecimal unitRate = .ok applied ∧ applied.val ≤ rate.val) ∧
      ∃ cause found units, c.shipmentCharge Sample.shipment 100 discount =
        .error (.arithmetic cause) ∧ discount.Exceeds found units cause := by
  intro rate discount data
  let c : Calculator := { rates := ⟨ReferenceData.itemIndex data.tariffItems,
    ReferenceData.rateIndex data.rates, data.rateAreas, data.regions⟩ }
  have accepted : RateTable.ofReference data = .ok c.rates :=
    RateTable.ofReference_eq_ok.2 ⟨by decide +kernel, rfl⟩
  have nonneg : c.RatesNonneg := ratesNonneg_of_accepted accepted
  obtain ⟨discounted, -, shipments, -⟩ := outOfRange_causes nonneg
  obtain ⟨unitRate, applied, product, -, -, converted, -, most⟩ :=
    discounted rate discount (by decide)
  have outOfRange : (match c.shipmentCharge Sample.shipment 100 discount with
      | .error (.arithmetic _) => true
      | _ => false) = true := by decide +kernel
  split at outOfRange
  · next cause failed =>
    obtain ⟨_, _, rate, units, -, -, -, -, exceeds⟩ := shipments _ _ _ _ failed
    exact ⟨c, accepted, nonneg, by decide +kernel, ⟨unitRate, applied, product, converted, most⟩,
      cause, rate, units, failed, exceeds⟩
  · contradiction

end Calculator
end Haulage
