import Haulage.Proofs.Charges
import Haulage.Proofs.QuotedCharges

/-! The linehaul is priced twice, once as a charge of the shipment and once as a line item. The
shipment takes hundredweights times miles, the line item what its quantities, counted in
ten-thousandths, come to. As both are the same number, both are the same charge. -/
namespace Haulage

section SameNumber
variable {a a' b b' : Decimal}

/-- Equal numbers give products of equal numbers. -/
theorem sameSuccess_times (left : a.number = a'.number) (right : b.number = b'.number)
    (short : a.scale + b.scale ≤ 47) (short' : a'.scale + b'.scale ≤ 47) :
    SameSuccess (fun c c' => c.number = c'.number) (times a b) (times a' b') := by
  have same := Decimal.mul?_congr left right short short'
  unfold times
  cases first : a.mul? b <;> cases second : a'.mul? b' <;> rw [first, second] at same
  · exact .error _ _
  · contradiction
  · contradiction
  · exact .ok (Option.some.inj same)

theorem sameSuccess_roundToInt64 (same : a.number = a'.number) :
    SameSuccess Eq (roundToInt64 a) (roundToInt64 a') := by
  unfold roundToInt64
  rw [Decimal.roundAway_congr same]
  cases int64? a'.roundAway with
  | none => exact .error _ _
  | some n => exact .ok rfl

theorem sameSuccess_ofMillicents (same : a.number = a'.number) :
    SameSuccess Eq (Cents.ofMillicents a) (Cents.ofMillicents a') := by
  obtain ⟨b, b', quotient, quotient', same'⟩ := Decimal.div?_congr same 3
  have thousandth : dividedBy a 1000 = .ok b := dividedBy_eq_ok.2 quotient
  have thousandth' : dividedBy a' 1000 = .ok b' := dividedBy_eq_ok.2 quotient'
  rw [Cents.ofMillicents, Cents.ofMillicents, thousandth, thousandth']
  refine (sameSuccess_roundToInt64 same').bind ?_
  rintro n _ rfl
  exact .ok rfl

end SameNumber

/-- The charge depends on the number of units only, however it is written. -/
theorem sameSuccess_discountedCharge {units units' : Decimal} (rate : Millicents)
    (discount : DiscountRate) (same : units.number = units'.number) (short : units.scale ≤ 19)
    (short' : units'.scale ≤ 19) :
    SameSuccess Eq (discountedCharge rate units discount)
      (discountedCharge rate units' discount) := by
  refine .after _ ?_
  intro unitRate _
  have within := unitRate.scale_le
  refine (sameSuccess_times rfl same (by omega) (by omega)).bind ?_
  intro total total' sameTotal
  refine (sameSuccess_ofMillicents sameTotal).bind ?_
  rintro fee _ rfl
  refine .after _ ?_
  intro rate _
  exact .ok rfl

namespace Quantity
variable {units : Int64}

/-- In hundredweights it is what the weight itself is. -/
theorem exists_cwt (inRange : InRange units) :
    ∃ cwt, dividedBy (ofUnits units).toDecimal 100 = .ok cwt ∧ cwt.scale ≤ 13 ∧
      cwt.number = (Pounds.toCwt ⟨units⟩).number := by
  obtain ⟨cwt, divided, value, short⟩ := (ofUnits units).exists_hundredth
  refine ⟨cwt, divided, short, Decimal.toRat_inj.1 ?_⟩
  rw [value, toInt_ofUnits inRange, Pounds.toCwt, Decimal.toRat_scaled]
  push_cast
  ring

theorem number_ofUnits_miles (miles : Miles) :
    (ofUnits (Int64.ofNat miles.toNat)).toDecimal.number = (Decimal.ofUInt32 miles).number := by
  rw [toDecimal, Decimal.number_scaled, toInt_ofUnits (inRange_miles miles),
    toInt_ofNat_miles, Decimal.number_ofUInt32, Int.mul_assoc]
  rfl

/-- A mileage comes back out of its quantity. -/
theorem wholeMiles_ofUnits (miles : Miles) :
    wholeMiles (ofUnits (Int64.ofNat miles.toNat)) = .ok miles := by
  have whole : ((miles.toNat * 10000 : Int) : ℚ) / 10 ^ 4 = (miles.toNat : Int) := by
    push_cast
    ring
  rw [wholeMiles_eq_ok, toInt_ofUnits (inRange_miles miles), toInt_ofNat_miles, whole]
  exact .of_int _

end Quantity

section Charges
variable {c : Calculator} {tariff : TariffItem} {item : LineItem} {shipment : Shipment}
  {weight : Pounds} {miles : Miles} {discount : DiscountRate}

/-- The quantities come to as many units, and to the miles that choose the rate. -/
theorem exists_billingUnits (inRange : Quantity.InRange weight.val)
    (byMile : tariff.measurementUnit = .weightDistance)
    (quantity1 : item.quantity1 = .ofUnits weight.val)
    (quantity2 : item.quantity2 = .ofUnits (Int64.ofNat miles.toNat)) :
    ∃ units units', times weight.toCwt (.ofUInt32 miles) = .ok units ∧
      billingUnits tariff item = .ok (units', some miles) ∧ units.number = units'.number ∧
      units.scale ≤ 19 ∧ units'.scale ≤ 19 := by
  obtain ⟨cwt, divided, short, same⟩ := Quantity.exists_cwt inRange
  obtain ⟨units, product, within⟩ := exists_hundredweightMiles weight miles
  have scales : (Quantity.ofUnits (Int64.ofNat miles.toNat)).toDecimal.scale = 4 := rfl
  have products := sameSuccess_times same.symm (Quantity.number_ofUnits_miles miles).symm
    (Nat.le_add_left 2 45) (by omega)
  -- The shipment's product fits, so the item's does.
  rw [product] at products
  generalize product' : times cwt (Quantity.ofUnits (Int64.ofNat miles.toNat)).toDecimal = result
    at products
  cases products with
  | ok same' =>
    rename_i units'
    have within' := Decimal.scale_le_of_mul? (times_eq_ok.1 product')
    refine ⟨units, units', product, ?_, same', by omega, by omega⟩
    simp only [billingUnits, byMile, quantity1, quantity2, divided, ok_bind, product',
      Quantity.wholeMiles_ofUnits]
    rfl

/-- The tariff charges the linehaul by the hundredweight and mile, and the carrier's discount
applies to it. -/
structure Calculator.LinehaulByMile (c : Calculator) : Prop where
  code : c.linehaulCode = BaseCategory.linehaul.code
  tariff : ∃ tariff, c.rates.tariffItem BaseCategory.linehaul.code = .ok tariff ∧
    tariff.measurementUnit = .weightDistance ∧ tariff.discountType ≠ .nonDiscountable

/-- The shipment and its line item are charged the same for the linehaul, or both are charged
nothing. -/
theorem Calculator.sameSuccess_linehaul {data : ReferenceData}
    (accepted : RateTable.ofReference data = .ok c.rates) (byMile : c.LinehaulByMile)
    (weighed : shipment.netWeight = some weight) (inRange : Quantity.InRange weight.val)
    (code : item.tariffCode = BaseCategory.linehaul.code)
    (quantity1 : item.quantity1 = .ofUnits weight.val)
    (quantity2 : item.quantity2 = .ofUnits (Int64.ofNat miles.toNat)) :
    SameSuccess Eq (c.shipmentCharge shipment miles discount)
      (c.lineItemCharge item shipment discount) := by
  obtain ⟨tariff, known, unit, discountable⟩ := byMile.tariff
  obtain ⟨units, units', product, billed, same, short, short'⟩ :=
    exists_billingUnits inRange unit quantity1 quantity2
  have sameCode : tariff.code = c.linehaulCode := by
    rw [byMile.code, RateTable.code_of_tariffItem accepted known]
  have weight_ : shipment.requireNetWeight = .ok weight :=
    Shipment.requireNetWeight_eq_ok.2 weighed
  rw [lineItemCharge, code, known, shipmentCharge, weight_, ok_bind, ok_bind, ok_bind]
  refine .after _ ?_
  intro bookDate _
  rw [billed, sameCode, if_neg discountable, product, ok_bind]
  refine .after _ ?_
  intro rate _
  exact sameSuccess_discountedCharge rate discount same short short'

end Charges

/-- The stored shipment has a weight, and unless that is zero each of its linehaul items that is
approved and not invoiced has the fee and rate of the shipment's own charge. -/
def Store.LinehaulAgrees (s : Store) (t : RateTable) (id : ShipmentId) : Prop :=
  ∃ shipment weight, s.shipments.get? id = some shipment ∧ shipment.netWeight = some weight ∧
    (weight.val ≠ 0 → Quantity.InRange weight.val → ∀ item ∈ s.lineItemsOf id,
      t.baseCategory? item = some .linehaul → item.isInvoiced = false →
      item.status.isPriceable → item.PricedAs shipment.linehaulCharge)

theorem PricingOutcome.pricedAs_ofCharge (charge : Except Error FeeAndRate) (item : LineItem) :
    ((ofCharge charge).applyTo item).PricedAs charge.toOption := by
  cases charge <;> exact ⟨rfl, rfl⟩

namespace Recalculator
variable {r : Recalculator} {data : ReferenceData} {ids : IdSupply} {now : Timestamp}
  {shipment : Shipment} {weight : Pounds} {miles : Miles} {discount : DiscountRate}
  {s s' : Store} {report : RecalculationReport} {item : LineItem}

theorem charged_linehaulCharge :
    (r.charged shipment miles discount).linehaulCharge =
      (r.calculator.shipmentCharge shipment miles discount).toOption := by
  rw [charged, linehaul]
  cases r.calculator.shipmentCharge shipment miles discount <;> rfl

/-- The linehaul item of a basket has the shipment's weight and mileage for its quantities. -/
theorem quantities_of_linehaul
    (mem : item ∈ (r.refreshBasket ids now shipment weight miles s).items)
    (opened : item.isInvoiced = false)
    (base : r.calculator.rates.baseCategory? item = some .linehaul) :
    item.quantity1 = .ofUnits weight.val ∧
      item.quantity2 = .ofUnits (Int64.ofNat miles.toNat) := by
  have upToDate : r.calculator.rates.refreshBaseItem weight miles item = item :=
    Basket.base_ensureSits Basket.base_refreshBase item mem
  rw [RateTable.refreshBaseItem, opened, base] at upToDate
  exact ⟨(congrArg (·.quantity1) upToDate).symm, (congrArg (·.quantity2) upToDate).symm⟩

theorem settled_linehaul (accepted : RateTable.ofReference data = .ok r.calculator.rates)
    (byMile : r.calculator.LinehaulByMile) (delivered : shipment.status.isPriceable)
    (weighed : shipment.netWeight = some weight) (inRange : Quantity.InRange weight.val)
    (nonzero : weight.val ≠ 0)
    (mem : item ∈ (r.refreshBasket ids now shipment weight miles s).items)
    (opened : item.isInvoiced = false) (approved : item.status.isPriceable)
    (base : r.calculator.rates.baseCategory? item = some .linehaul) :
    (r.calculator.settledItem shipment discount item).PricedAs
      (r.charged shipment miles discount).linehaulCharge := by
  obtain ⟨quantity1, quantity2⟩ := quantities_of_linehaul mem opened base
  obtain ⟨code, -⟩ :=
    BaseCategory.chargedBy_iff.1 (RateTable.baseCategory?_eq_some.1 base).1
  have service : item.tariffCode ≠ actualCostCode := by
    rw [code]
    decide
  have counted : item.quantity1.isZero = false := by
    rw [quantity1]
    exact Quantity.isZero_ofUnits inRange nonzero
  have outcome : r.calculator.outcome shipment discount item =
      .ofCharge (r.calculator.lineItemCharge item shipment discount) :=
    Calculator.outcome_of_quantity accepted opened approved delivered service counted
  have same : SameSuccess Eq (r.calculator.shipmentCharge shipment miles discount)
      (r.calculator.lineItemCharge item shipment discount) :=
    Calculator.sameSuccess_linehaul accepted byMile weighed inRange code quantity1 quantity2
  rw [Calculator.settledItem, outcome, charged_linehaulCharge, same.toOption_eq]
  exact PricingOutcome.pricedAs_ofCharge _ _

theorem linehaulAgrees_run (accepted : RateTable.ofReference data = .ok r.calculator.rates)
    (byMile : r.calculator.LinehaulByMile) (filed : s.Filed)
    (h : r.run ids now shipment s = .ok (report, s')) :
    s'.LinehaulAgrees r.calculator.rates shipment.id := by
  obtain ⟨delivered, weight, _, _, miles, discount, linked, s₁, weighed, _, _, _, resolved,
    settled⟩ := run_eq_ok.1 h
  obtain rfl : _ = s' := congrArg Prod.snd settled
  have filed₁ := (resolveDiscount_beside resolved).filed filed
  obtain ⟨⟨groupingId, performanceId, links⟩, -⟩ := resolveDiscount_frame resolved
  have sameId : linked.id = shipment.id := by rw [links]
  have weighed : linked.netWeight = some weight := by rw [links, weighed]
  have delivered : linked.status.isPriceable := by rwa [links]
  refine ⟨r.charged linked miles discount, weight, ?_, weighed, ?_⟩
  · rw [settle_store, SortedMap.get?_insert, if_pos sameId.symm]
  · intro nonzero inRange item mem base opened approved
    have grows := r.refreshBasket_grows ids now linked weight miles s₁
    obtain ⟨stored, owner⟩ := (filed_settle filed₁).mem_lineItemsOf.1 mem
    rcases settle_get?_origin filed₁ grows stored with ⟨old, memOld, -, rfl⟩ | ⟨-, other⟩
    · obtain ⟨amount, appliedRate, repriced⟩ := reprices_settledItem (r := r) old
      rw [repriced] at base opened approved
      rw [RateTable.baseCategory?_congr rfl rfl] at base
      exact settled_linehaul accepted byMile delivered weighed inRange nonzero memOld opened
        approved base
    · exact absurd (owner.trans sameId.symm) other

/-- By a tariff that charges the linehaul by the mile, a shipment and its linehaul item are
charged alike: a charge of the one is a charge of the other, and after a recalculation both are
stored, or neither has one. -/
theorem linehaul_agrees (accepted : RateTable.ofReference data = .ok r.calculator.rates)
    (byMile : r.calculator.LinehaulByMile) :
    (∀ (shipment : Shipment) (item : LineItem) (weight : Pounds) (miles : Miles)
      (discount : DiscountRate), shipment.netWeight = some weight →
      Quantity.InRange weight.val → item.tariffCode = BaseCategory.linehaul.code →
      item.quantity1 = .ofUnits weight.val →
      item.quantity2 = .ofUnits (Int64.ofNat miles.toNat) →
      SameSuccess Eq (r.calculator.shipmentCharge shipment miles discount)
        (r.calculator.lineItemCharge item shipment discount)) ∧
    ∀ (ids : IdSupply) (now : Timestamp) (id : ShipmentId) (date : Date) (s s' : Store)
      (report : RecalculationReport), s.Filed →
      (r.recalculate ids now id s = .ok (report, s') ∨
        r.deliverAndPrice ids now id date s = .ok (report, s')) →
      s'.LinehaulAgrees r.calculator.rates id := by
  constructor
  · intro shipment item weight miles discount weighed inRange code quantity1 quantity2
    exact Calculator.sameSuccess_linehaul accepted byMile weighed inRange code quantity1 quantity2
  · intro ids now id date s s' report filed ran
    rcases ran with recalculated | delivered
    · obtain ⟨shipment, stored, ran⟩ := recalculate_eq_ok.1 recalculated
      obtain rfl := filed.shipments stored
      exact linehaulAgrees_run accepted byMile filed ran
    · obtain ⟨old, shipment, side, stored, left, beside, -, ran⟩ := deliverAndPrice_eq_ok delivered
      obtain ⟨-, moved⟩ := Shipment.deliver_eq_ok left
      obtain rfl : shipment.id = id := by rw [moved, ← filed.shipments stored]
      exact linehaulAgrees_run accepted byMile (beside.filed filed) ran

/-- A hundred miles at 4000 pounds are charged at $4000.00, to the shipment and as an item. -/
theorem linehaul_agrees_sample :
    let r : Recalculator := { Sample.recalculator with calculator.rates := Sample.baseRates }
    r.calculator.LinehaulByMile ∧ ∃ report s' after item,
      r.recalculate Sample.ids Sample.time (Sample.id 1) Sample.linked = .ok (report, s') ∧
      s'.shipments.get? (Sample.id 1) = some after ∧ item ∈ s'.lineItemsOf (Sample.id 1) ∧
      item.amount = some ⟨400000⟩ ∧ item.PricedAs after.linehaulCharge := by
  intro r
  have accepted : RateTable.ofReference Sample.baseReference = .ok r.calculator.rates :=
    toOption_eq_some.1 (by decide +kernel)
  have byMile : r.calculator.LinehaulByMile :=
    ⟨rfl, Sample.tariffItem "LHS" false .weightDistance, toOption_eq_some.1 (by decide +kernel),
      rfl, by decide⟩
  have filed : Sample.linked.Filed := Sample.filed_store.saveShipment _
  have given : ∃ result, (r.recalculate Sample.ids Sample.time (Sample.id 1)
      Sample.linked).toOption = some result ∧
      (result.2.shipments.get? (Sample.id 1)).bind (·.netWeight) = some ⟨4000⟩ ∧
      ∃ item ∈ result.2.lineItemsOf (Sample.id 1), r.calculator.rates.baseCategory? item =
        some .linehaul ∧ item.isInvoiced = false ∧ item.status.isPriceable ∧
        item.amount = some ⟨400000⟩ := by
    decide +kernel
  obtain ⟨⟨report, s'⟩, recalculated, weighed, item, mem, base, opened, approved, amount⟩ := given
  have recalculated := toOption_eq_some.1 recalculated
  obtain ⟨after, weight, stored, weighed', priced⟩ := (linehaul_agrees accepted byMile).2
    Sample.ids Sample.time (Sample.id 1) (Sample.day 19000) Sample.linked s' report filed
    (.inl recalculated)
  obtain rfl : weight = ⟨4000⟩ := by
    rw [stored, Option.bind_some, weighed'] at weighed
    exact Option.some.inj weighed
  exact ⟨byMile, report, s', after, item, recalculated, stored, mem, amount,
    priced (by decide) (by decide) item mem base opened approved⟩

end Recalculator
end Haulage
