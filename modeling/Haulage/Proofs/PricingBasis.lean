import Haulage.Proofs.ChargeBounds
import Haulage.Proofs.Sample

/-! Whether the decision to price an item agrees with what its bill needs. The decision goes by
the code of the item, the bill by the unit that the tariff measures it in. -/
namespace Haulage

/-- What a bill says that finds neither an estimate nor an actual amount. -/
def Error.amountRequired : Error :=
  .invalid "estimate_amount_cents" "an estimate or actual amount is required to price this item"

theorem Quantity.isZero_iff {q : Quantity} : q.isZero ↔ q.val = 0 := beq_iff_eq

theorem isDecimal_zero : IsDecimal 0 := ⟨.scaled 0 0 (by decide), by simp [Decimal.toRat_scaled]⟩

namespace LineItem
variable {item : LineItem} {tariff : TariffItem} {shipment : Shipment} {unit : MeasurementUnit}
  {e : Error}

theorem billedAmount_eq_error : item.billedAmount = .error e ↔
    e = .amountRequired ∧ item.actualAmount = none ∧ item.estimateAmount = none := by
  unfold billedAmount
  cases item.actualAmount <;> cases item.estimateAmount <;> simp [Error.amountRequired, eq_comm]

theorem billed_eq_error (failed : item.billed unit = .error e) :
    (∃ cause, e = .arithmetic cause) ∨ unit = .actualCost ∧ e = .amountRequired ∧
      item.actualAmount = none ∧ item.estimateAmount = none := by
  obtain ⟨cwt, divided, -⟩ := item.quantity1.exists_hundredth
  cases unit
  case weight =>
    rw [billed, divided] at failed
    contradiction
  case weightDistance | days =>
    rw [billed, divided, ok_bind, times_eq_error] at failed
    exact .inl ⟨_, failed.1⟩
  case volume | each | distance | flat => contradiction
  case actualCost =>
    rw [billed, bind_eq_error] at failed
    rcases failed with failed | ⟨cents, -, failed⟩
    · exact .inr ⟨rfl, billedAmount_eq_error.1 failed⟩
    · obtain ⟨b, quotient, -⟩ := cents.exists_hundredth
      rw [quotient] at failed
      contradiction

theorem band_eq_error (failed : item.band unit = .error e) :
    ∃ q, (unit = .weightDistance ∧ q = item.quantity2 ∨ unit = .distance ∧ q = item.quantity1) ∧
      e = .arithmetic (.mileage q) ∧
      ∀ miles : Miles, ¬ NearestEven (q.val.toInt / 10 ^ 4) miles.toNat := by
  cases unit
  case weightDistance =>
    rcases bind_eq_error.1 failed with failed | ⟨_, -, failed⟩
    · exact ⟨_, .inl ⟨rfl, rfl⟩, wholeMiles_eq_error.1 failed⟩
    · contradiction
  case distance =>
    rcases bind_eq_error.1 failed with failed | ⟨_, -, failed⟩
    · exact ⟨_, .inr ⟨rfl, rfl⟩, wholeMiles_eq_error.1 failed⟩
    · contradiction
  all_goals contradiction

/-- A bill lacks an amount only in the one unit that asks for it. -/
theorem billingUnits_eq_amountRequired : billingUnits tariff item = .error .amountRequired ↔
    tariff.measurementUnit = .actualCost ∧ item.actualAmount = none ∧
      item.estimateAmount = none := by
  rw [billingUnits_eq]
  constructor
  · intro failed
    rcases bind_eq_error.1 failed with failed | ⟨units, -, failed⟩
    · rcases billed_eq_error failed with ⟨_, other⟩ | ⟨unit, -, missing⟩
      · exact absurd other Error.invalid_ne_arithmetic
      · exact ⟨unit, missing⟩
    · rcases bind_eq_error.1 failed with failed | ⟨_, -, failed⟩
      · obtain ⟨_, -, other, -⟩ := band_eq_error failed
        exact absurd other Error.invalid_ne_arithmetic
      · contradiction
  · rintro ⟨unit, missing⟩
    rw [unit, billed, billedAmount_eq_error.2 ⟨rfl, missing⟩]
    rfl

theorem billed_of_isZero (nothing : item.quantity1.isZero) (actualCost : unit ≠ .actualCost)
    (flat : unit ≠ .flat) : ∃ units, item.billed unit = .ok units ∧ units.toRat = 0 := by
  have known : item.units? unit = some 0 := by
    cases unit <;> first | contradiction | simp [units?, Quantity.isZero_iff.1 nothing]
  exact exists_billed known isDecimal_zero

/-- The bills of an item that is cleared. A flat one is a unit whatever the quantity, which it waits
for all the same. -/
inductive ClearedBill (tariff : TariffItem) (item : LineItem) :
    Except Error (Decimal × Option Miles) → Prop
  | amountRequired : ClearedBill tariff item (.error .amountRequired)
  | unitless {units : Decimal} {miles : Option Miles} : units.toRat = 0 →
      ClearedBill tariff item (.ok (units, miles))
  | unbanded : tariff.measurementUnit = .weightDistance →
      (∀ miles : Miles, ¬ NearestEven (item.quantity2.val.toInt / 10 ^ 4) miles.toNat) →
      ClearedBill tariff item (.error (.arithmetic (.mileage item.quantity2)))
  | flat : tariff.measurementUnit = .flat → item.quantity1.isZero →
      ClearedBill tariff item (.ok (.one, none))

theorem clearedBill_of_isZero (nothing : item.quantity1.isZero)
    (actualCost : tariff.measurementUnit ≠ .actualCost) :
    ClearedBill tariff item (billingUnits tariff item) := by
  by_cases flat : tariff.measurementUnit = .flat
  · have one : billingUnits tariff item = .ok (.one, none) := by
      rw [billingUnits, flat]
      rfl
    rw [one]
    exact .flat flat nothing
  obtain ⟨units, counted, zero⟩ := billed_of_isZero nothing actualCost flat
  rw [billingUnits_eq, counted, ok_bind]
  cases banded : item.band tariff.measurementUnit with
  | ok miles => exact .unitless zero
  | error e =>
    obtain ⟨q, kind, rfl, none_⟩ := band_eq_error banded
    rcases kind with ⟨distance, rfl⟩ | ⟨distance, rfl⟩
    · exact .unbanded distance none_
    · -- No quantity is no miles, which is a mileage.
      have nearest : NearestEven (item.quantity1.val.toInt / 10 ^ 4) (0 : Miles).toNat := by
        simpa [Quantity.isZero_iff.1 nothing] using NearestEven.of_int 0
      exact absurd nearest (none_ 0)

theorem pricingAction_of_ready (opened : item.isInvoiced = false)
    (approved : item.status.isPriceable) (delivered : shipment.status.isPriceable) :
    pricingAction item tariff shipment = if item.hasPricingBasis tariff then .price else .clear :=
  if_neg (by simp [opened, approved, delivered])

/-- Once its time has come, an item is priced or cleared. A priced one has the amount that its bill
asks for, if no other code than that of actual costs is measured in them. If that code is measured
in nothing else either, a cleared one has nothing to bill or no mileage to bill by, or is a flat one
without a quantity. -/
theorem pricingAction_billingUnits (tariff : TariffItem) (item : LineItem) (shipment : Shipment)
    (opened : item.isInvoiced = false) (approved : item.status.isPriceable)
    (delivered : shipment.status.isPriceable) :
    (pricingAction item tariff shipment = .price ∧
      ((tariff.measurementUnit = .actualCost → tariff.isActualCost) →
        billingUnits tariff item ≠ .error .amountRequired)) ∨
    (pricingAction item tariff shipment = .clear ∧
      ((tariff.measurementUnit = .actualCost ↔ tariff.isActualCost) →
        ClearedBill tariff item (billingUnits tariff item))) := by
  rw [pricingAction_of_ready opened approved delivered]
  by_cases basis : item.hasPricingBasis tariff
  · refine .inl ⟨if_pos basis, fun byCode failed => ?_⟩
    obtain ⟨unit, actual, estimate⟩ := billingUnits_eq_amountRequired.1 failed
    rw [hasPricingBasis, if_pos (byCode unit), actual, estimate] at basis
    contradiction
  · refine .inr ⟨if_neg basis, fun byCode => ?_⟩
    unfold hasPricingBasis at basis
    split at basis
    · next actualCost =>
      rw [Bool.or_eq_true, not_or, Option.not_isSome_iff_eq_none,
        Option.not_isSome_iff_eq_none] at basis
      rw [billingUnits_eq_amountRequired.2 ⟨byCode.2 actualCost, basis⟩]
      exact .amountRequired
    · next other => exact clearedBill_of_isZero (by simpa using basis) (mt byCode.1 other)

/-- A third party's service is priced at its estimate, and what has no quantity yet is cleared. -/
theorem pricingAction_billingUnits_sample :
    let service : LineItem := { Sample.estimate with status := .conditionallyApproved }
    let crating : LineItem := { Sample.crating with status := .approved, quantity1 := .zero }
    ∃ actualCost volume, Sample.rates.tariffItem "35A" = .ok actualCost ∧
      Sample.rates.tariffItem "105B" = .ok volume ∧
      pricingAction service actualCost Sample.shipment = .price ∧
      billingUnits actualCost service ≠ .error .amountRequired ∧
      pricingAction crating volume Sample.shipment = .clear ∧
      ClearedBill volume crating (billingUnits volume crating) := by
  intro service crating
  have known : (Sample.rates.tariffItem "35A").toOption =
      some (Sample.tariffItem "35A" true .actualCost) := by decide +kernel
  have known' : (Sample.rates.tariffItem "105B").toOption =
      some (Sample.tariffItem "105B" true .volume) := by decide +kernel
  obtain ⟨price, billed⟩ := (pricingAction_billingUnits (Sample.tariffItem "35A" true .actualCost)
    service Sample.shipment rfl rfl rfl).resolve_right fun cleared => absurd cleared.1 (by decide)
  obtain ⟨clear, cleared⟩ := (pricingAction_billingUnits (Sample.tariffItem "105B" true .volume)
    crating Sample.shipment rfl rfl rfl).resolve_left fun priced => absurd priced.1 (by decide)
  exact ⟨_, _, toOption_eq_some.1 known, toOption_eq_some.1 known', price, billed fun _ => rfl,
    clear, cleared (by decide)⟩

/-- Where decision and bill of an accepted tariff's items part. One flat unit is billed for what is
cleared, and too many miles are no mileage. Under a code of its own a third party's service is
priced without an amount and cleared with one; and what has the code for it, but goes by weight, is
cleared with a weight. -/
theorem pricingAction_disagrees_sample :
    let flat := Sample.tariffItem "175A" true .flat
    let byMile := Sample.tariffItem "LHS" false .weightDistance
    let service := Sample.tariffItem "130B" true .actualCost
    let weighed := Sample.tariffItem "35A" true .weight
    let item (tariff : TariffItem) : LineItem :=
      .approvedNow (Sample.id 3) (Sample.id 1) tariff.code .origin Sample.time
    let lost : LineItem := { item byMile with quantity2 := .ofUnits 5000000000 }
    let counted : LineItem := { item service with quantity1 := .ofUnits 2 }
    let estimated : LineItem := { item service with estimateAmount := some ⟨5000⟩ }
    let heavy : LineItem := { item weighed with quantity1 := .ofUnits 100 }
    let data : ReferenceData :=
      { Sample.reference with tariffItems := [flat, byMile, service, weighed], rates := [] }
    (∃ t, RateTable.ofReference data = .ok t ∧
      ∀ tariff ∈ data.tariffItems, t.items.get? tariff.code = some tariff) ∧
    (pricingAction (item flat) flat Sample.shipment = .clear ∧
      billingUnits flat (item flat) = .ok (.one, none)) ∧
    (pricingAction lost byMile Sample.shipment = .clear ∧
      billingUnits byMile lost = .error (.arithmetic (.mileage lost.quantity2))) ∧
    (pricingAction counted service Sample.shipment = .price ∧
      billingUnits service counted = .error .amountRequired) ∧
    (pricingAction estimated service Sample.shipment = .clear ∧
      ∃ units, billingUnits service estimated = .ok (units, none) ∧ units.toRat = 50) ∧
    pricingAction heavy weighed Sample.shipment = .clear ∧
      ∃ units, billingUnits weighed heavy = .ok (units, none) ∧ units.toRat = 1 := by
  intro flat byMile service weighed item lost counted estimated heavy data
  have known : ∀ tariff ∈ data.tariffItems,
      (ReferenceData.itemIndex data.tariffItems).get? tariff.code = some tariff := by decide +kernel
  have accepted := RateTable.ofReference_eq_ok.2
    (show data.validate.isEmpty ∧ _ from ⟨by decide +kernel, rfl⟩)
  have noMileage : billingUnits byMile lost = .error (.arithmetic (.mileage lost.quantity2)) := by
    decide +kernel
  have cost : billingUnits service estimated = .ok (.scaled 50 0, none) := by decide +kernel
  have weight : billingUnits weighed heavy = .ok (.scaled 10000 4, none) := by decide +kernel
  refine ⟨⟨_, accepted, known⟩, ⟨by decide, rfl⟩, ⟨by decide, noMileage⟩, ⟨by decide, rfl⟩,
    ⟨by decide, _, cost, ?_⟩, by decide, _, weight, ?_⟩
  · simp [Decimal.toRat_scaled]
  · have exact_ : (10000 : Int64).toInt = 10000 := by decide
    norm_num [Decimal.toRat_scaled, exact_]

end LineItem
end Haulage
