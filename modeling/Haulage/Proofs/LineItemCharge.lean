import Haulage.Proofs.ChargeBounds

/-! The charge of a line item is the formula of the tariff: the discounted rate, and that rate times
the units, each rounded once. As long as every number on the way is a decimal, nothing else is
rounded, and a charge is there if and only if all that the formula takes is there and the fee
fits. -/
namespace Haulage

/-- The share of the rate that is left, of items that take no discount all of it. -/
def TariffItem.share (tariff : TariffItem) (discount : DiscountRate) : ℚ :=
  if tariff.discountType = .nonDiscountable then 1 else discount.value.toRat

/-- Each product and quotient of the formula is a number that some decimal writes. -/
structure ExactFormula (r d u : ℚ) : Prop where
  units : IsDecimal u
  unitRate : IsDecimal (r * d)
  total : IsDecimal (r * d * u)
  amount : IsDecimal (r * d * u / 1000)

/-- The charge is the formula, rounded once: the discounted rate in thousandths of a cent, and the
fee in cents. -/
structure FeeAndRate.Rounds (charge : FeeAndRate) (r d u : ℚ) : Prop where
  rate : NearestAway (r * d) charge.rate.val.toInt
  fee : NearestAway (r * d * u / 1000) charge.fee.val.toInt

/-- Items that take no discount are charged as at the full rate. -/
theorem toRat_share (tariff : TariffItem) (discount : DiscountRate) :
    (if tariff.discountType = .nonDiscountable then DiscountRate.full else discount).value.toRat =
      tariff.share discount := by
  unfold TariffItem.share
  split
  · simp [DiscountRate.full, Decimal.toRat, Decimal.mantissa, Decimal.one]
  · rfl

section Discounted
variable {rate : Millicents} {units : Decimal} {discount : DiscountRate} {charge : FeeAndRate}

theorem exists_unitRate (exact_ : IsDecimal (rate.val.toInt * discount.value.toRat)) :
    ∃ unitRate, discount.discounted? rate.toDecimal = some unitRate ∧
      unitRate.toRat = rate.val.toInt * discount.value.toRat := by
  have places := discount.value.scale_le
  have whole : rate.toDecimal.scale = 0 := rfl
  exact Decimal.exists_mul?_of_isDecimal (by omega)
    (congrArg (· * discount.value.toRat) rate.toRat_toDecimal) exact_

theorem discountedCharge_eq_ok (short : units.scale ≤ 19)
    (exact_ : ExactFormula rate.val.toInt discount.value.toRat units.toRat) :
    discountedCharge rate units discount = .ok charge ↔
      charge.Rounds rate.val.toInt discount.value.toRat units.toRat := by
  obtain ⟨unitRate, product, value⟩ := exists_unitRate exact_.unitRate
  have within := unitRate.scale_le
  obtain ⟨total, multiplied, value'⟩ := Decimal.exists_mul?_of_isDecimal (by omega)
    (congrArg (· * units.toRat) value) exact_.total
  obtain ⟨amount, divided, value''⟩ := Decimal.exists_div?_of_isDecimal (e := 3)
    (by rw [value']; norm_num) exact_.amount
  rw [discountedCharge, times_eq_ok.2 product, ok_bind, times_eq_ok.2 multiplied, ok_bind]
  simp only [bind_eq_ok, Cents.ofMillicents_eq_ok divided, Millicents.ofDecimal_eq_ok, value,
    value'', pure, Except.pure, Except.ok.injEq]
  constructor
  · rintro ⟨fee, nearestFee, applied, nearestRate, rfl⟩
    exact ⟨nearestRate, nearestFee⟩
  · rintro ⟨nearestRate, nearestFee⟩
    exact ⟨charge.fee, nearestFee, charge.rate, nearestRate, rfl⟩

end Discounted

namespace Calculator
variable {c : Calculator} {data : ReferenceData} {item : LineItem} {shipment : Shipment}
  {discount : DiscountRate} {charge : FeeAndRate}

/-- What the formula takes, if all of it is there: the rate that applies, the share of it that is
left, and the units. -/
inductive Takes (c : Calculator) (item : LineItem) (shipment : Shipment) (discount : DiscountRate) :
    ℚ → ℚ → ℚ → Prop
  | intro {tariff : TariffItem} {weight : Pounds} {date : Date} {miles : Option Miles}
      {rate : Millicents} {u : ℚ} (known : c.rates.tariffItem item.tariffCode = .ok tariff)
      (weighed : shipment.netWeight = some weight) (booked : shipment.bookDate = some date)
      (counted : item.units? tariff.measurementUnit = some u)
      (banded : item.Banded tariff.measurementUnit miles)
      (found : c.rates.rate tariff.code weight date miles = .ok rate) :
      Takes c item shipment discount rate.val.toInt (tariff.share discount) u

/-- An item is charged what the formula comes to, and nothing else. -/
theorem lineItemCharge_eq_ok
    (exact_ : ∀ r d u, c.Takes item shipment discount r d u → ExactFormula r d u) :
    c.lineItemCharge item shipment discount = .ok charge ↔
      ∃ r d u, c.Takes item shipment discount r d u ∧ charge.Rounds r d u := by
  constructor
  · intro charged
    obtain ⟨tariff, known, charged⟩ := bind_eq_ok.1 charged
    obtain ⟨weight, weighed, charged⟩ := bind_eq_ok.1 charged
    obtain ⟨date, booked, charged⟩ := bind_eq_ok.1 charged
    obtain ⟨⟨units, miles⟩, billed, charged⟩ := bind_eq_ok.1 charged
    obtain ⟨rate, found, charged⟩ := bind_eq_ok.1 charged
    obtain ⟨billed, banded⟩ := LineItem.billingUnits_eq_ok.1 billed
    obtain ⟨u, counted⟩ := LineItem.exists_units_of_billed billed
    have takes : c.Takes item shipment discount rate.val.toInt (tariff.share discount) u :=
      .intro known (Shipment.requireNetWeight_eq_ok.1 weighed)
        (Shipment.requireBookDate_eq_ok.1 booked) counted banded found
    have formula := exact_ _ _ _ takes
    -- The units that were billed are the exact ones, as some decimal writes those.
    obtain ⟨units', billed', rfl⟩ := LineItem.exists_billed counted formula.units
    obtain rfl : units' = units := Except.ok.inj (billed'.symm.trans billed)
    have short := LineItem.scale_le_of_billed billed
    rw [← toRat_share] at takes formula
    exact ⟨_, _, _, takes, (discountedCharge_eq_ok (by omega) formula).1 charged⟩
  · rintro ⟨r, d, u, takes, rounds⟩
    have formula := exact_ _ _ _ takes
    obtain ⟨known, weighed, booked, counted, banded, found⟩ := takes
    obtain ⟨units, billed, rfl⟩ := LineItem.exists_billed counted formula.units
    have short := LineItem.scale_le_of_billed billed
    rw [← toRat_share] at formula rounds
    rw [lineItemCharge, known, ok_bind, Shipment.requireNetWeight_eq_ok.2 weighed, ok_bind,
      Shipment.requireBookDate_eq_ok.2 booked, ok_bind,
      LineItem.billingUnits_eq_ok.2 ⟨billed, banded⟩, ok_bind]
    simp only [found, ok_bind]
    exact (discountedCharge_eq_ok (by omega) formula).2 rounds

/-- The share of a rate can always be applied. -/
theorem Takes.exists_applied (accepted : RateTable.ofReference data = .ok c.rates) {r d u : ℚ}
    (takes : c.Takes item shipment discount r d u) (exact_ : IsDecimal (r * d)) :
    ∃ applied : Int64, NearestAway (r * d) applied.toInt := by
  obtain @⟨tariff, _, _, _, rate, _, -, -, -, -, -, found⟩ := takes
  rw [← toRat_share] at exact_ ⊢
  generalize (if tariff.discountType = .nonDiscountable then .full else discount) = discount
    at exact_ ⊢
  obtain ⟨unitRate, applied, product, -, -, converted, -, -⟩ :=
    exists_discounted discount (RateTable.rate_nonneg accepted found)
  obtain ⟨_, product', value⟩ := exists_unitRate exact_
  obtain rfl := Option.some.inj (product.symm.trans product')
  exact ⟨applied.val, value ▸ Millicents.ofDecimal_eq_ok.1 converted⟩

/-- Where every number on the way is a decimal, an item is charged if and only if all that the
formula takes is there and the fee is a 64-bit integer. The charge is the formula, rounded once. -/
theorem lineItemCharge_formula (accepted : RateTable.ofReference data = .ok c.rates)
    (exact_ : ∀ r d u, c.Takes item shipment discount r d u → ExactFormula r d u) :
    ((∃ charge, c.lineItemCharge item shipment discount = .ok charge) ↔
      ∃ r d u, c.Takes item shipment discount r d u ∧
        ∃ fee : Int64, NearestAway (r * d * u / 1000) fee.toInt) ∧
    ∀ charge, c.lineItemCharge item shipment discount = .ok charge →
      ∃ r d u, c.Takes item shipment discount r d u ∧ charge.Rounds r d u := by
  constructor
  · constructor
    · rintro ⟨charge, charged⟩
      obtain ⟨r, d, u, takes, rounds⟩ := (lineItemCharge_eq_ok exact_).1 charged
      exact ⟨r, d, u, takes, _, rounds.fee⟩
    · rintro ⟨r, d, u, takes, fee, nearest⟩
      obtain ⟨applied, rate⟩ := takes.exists_applied accepted (exact_ _ _ _ takes).unitRate
      exact ⟨⟨⟨fee⟩, ⟨applied⟩⟩,
        (lineItemCharge_eq_ok exact_).2 ⟨r, d, u, takes, rate, nearest⟩⟩
  · intro charge charged
    exact (lineItemCharge_eq_ok exact_).1 charged

/-- Ten cents that are given back, at five hundredths of a rate of a dollar for the dollar: half a
cent is one cent. -/
theorem lineItemCharge_formula_half :
    let c : Calculator := { rates := Sample.rates }
    let item := { Sample.estimate with estimateAmount := some ⟨-10⟩ }
    let discount : DiscountRate := ⟨⟨false, 5, 2, by decide, by decide⟩, by decide, by decide⟩
    RateTable.ofReference Sample.reference = .ok c.rates ∧
      (∀ r d u, c.Takes item Sample.shipment discount r d u → ExactFormula r d u) ∧
      c.lineItemCharge item Sample.shipment discount = .ok ⟨⟨-1⟩, ⟨5000⟩⟩ := by
  intro c item discount
  have accepted : RateTable.ofReference Sample.reference = .ok c.rates := rfl
  have known : c.rates.tariffItem item.tariffCode =
      .ok (Sample.tariffItem "35A" true .actualCost) := toOption_eq_some.1 (by decide +kernel)
  have found : c.rates.rate "35A" ⟨4000⟩ (Sample.day 19000) none = .ok ⟨100000⟩ :=
    toOption_eq_some.1 (by decide +kernel)
  have rate : ((100000 : Int64).toInt : ℚ) = 100000 := by norm_cast
  have share : (Sample.tariffItem "35A" true .actualCost).share discount = 1 / 20 := by
    rw [TariffItem.share, if_neg (by decide), Decimal.toRat]
    norm_num [Decimal.mantissa, discount]
  have units : (((-10 : Int64).toInt : Int) : ℚ) / 100 = -1 / 10 := by
    have count : (-10 : Int64).toInt = -10 := rfl
    rw [count]
    norm_num
  have only (r d u : ℚ) (takes : c.Takes item Sample.shipment discount r d u) :
      r = 100000 ∧ d = 1 / 20 ∧ u = -1 / 10 := by
    obtain ⟨known', weighed, booked, counted, banded, found'⟩ := takes
    obtain rfl := Except.ok.inj (known.symm.trans known')
    obtain rfl := Option.some.inj weighed
    obtain rfl := Option.some.inj booked
    obtain rfl := Option.some.inj counted
    cases banded
    obtain rfl := Except.ok.inj (found.symm.trans found')
    exact ⟨rate, share, units⟩
  have exact_ (r d u : ℚ) (takes : c.Takes item Sample.shipment discount r d u) :
      ExactFormula r d u := by
    obtain ⟨rfl, rfl, rfl⟩ := only r d u takes
    constructor
    case units =>
      exact ⟨⟨true, 1, 1, by decide, by decide⟩, by norm_num [Decimal.toRat, Decimal.mantissa]⟩
    case unitRate =>
      exact ⟨⟨false, 5000, 0, by decide, by decide⟩, by norm_num [Decimal.toRat, Decimal.mantissa]⟩
    case total =>
      exact ⟨⟨true, 500, 0, by decide, by decide⟩, by norm_num [Decimal.toRat, Decimal.mantissa]⟩
    case amount =>
      exact ⟨⟨true, 5, 1, by decide, by decide⟩, by norm_num [Decimal.toRat, Decimal.mantissa]⟩
  have takes : c.Takes item Sample.shipment discount 100000 (1 / 20) (-1 / 10) := by
    rw [← rate, ← share, ← units]
    exact .intro known rfl rfl rfl (.unbanded (by decide) (by decide)) found
  have half : NearestAway (100000 * (1 / 20) * (-1 / 10) / 1000) (-1) := by
    constructor <;> norm_num
  obtain ⟨succeeds, formula⟩ := lineItemCharge_formula accepted exact_
  obtain ⟨charge, charged⟩ := succeeds.2 ⟨_, _, _, takes, -1, half⟩
  obtain ⟨r, d, u, takes', rounds⟩ := formula charge charged
  obtain ⟨rfl, rfl, rfl⟩ := only r d u takes'
  have whole : NearestAway (100000 * (1 / 20)) 5000 := by
    constructor <;> norm_num
  have fee : charge.fee = ⟨-1⟩ :=
    congrArg Cents.mk (Int64.toInt_inj.1 (rounds.fee.unique half))
  have applied : charge.rate = ⟨5000⟩ :=
    congrArg Millicents.mk (Int64.toInt_inj.1 (rounds.rate.unique whole))
  refine ⟨accepted, exact_, ?_⟩
  rw [charged, ← fee, ← applied]

end Calculator
end Haulage
