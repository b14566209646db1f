import Haulage.Proofs.Basket.Alike
import Haulage.Proofs.Idempotence
import Haulage.Proofs.Operation
import Haulage.Proofs.Rates.Index

/-! Whether a request is approved before its shipment is delivered or after makes no
difference to its status, nor to its price once it is approved for good with something to
price. With nothing to price a recalculation clears the price, while an approval sets it. An
item that is approved on condition gets a price from a recalculation only. -/
namespace Haulage

namespace LineItem
variable {item item' : LineItem}

theorem Requantified.approval_eq (h : item.Requantified item') :
    item'.approval = item.approval := by
  cases h <;> rfl

/-- `approved` is the item after an approval. -/
def ApprovedAs (item approved : LineItem) : Prop :=
  ∃ status approvedDate, approved = { item with status, approvedDate }

theorem ApprovedAs.alike (h : item.ApprovedAs item') : item'.Alike item := by
  obtain ⟨_, _, rfl⟩ := h
  exact ⟨rfl, rfl, rfl, rfl, rfl, rfl, rfl⟩

theorem ApprovedAs.id (h : item.ApprovedAs item') : item'.id = item.id := by
  obtain ⟨_, _, rfl⟩ := h
  rfl

theorem ApprovedAs.shipmentId (h : item.ApprovedAs item') :
    item'.shipmentId = item.shipmentId := by
  obtain ⟨_, _, rfl⟩ := h
  rfl

theorem ApprovedAs.createdAt (h : item.ApprovedAs item') : item'.createdAt = item.createdAt := by
  obtain ⟨_, _, rfl⟩ := h
  rfl

end LineItem

theorem Store.saveLineItem_foldl_saveSit (s : Store) (item : LineItem) (sits : List Sit) :
    sits.foldl Store.saveSit (s.saveLineItem item) =
      (sits.foldl Store.saveSit s).saveLineItem item := by
  induction sits generalizing s with
  | nil => rfl
  | cons sit rest ih => exact ih (s.saveSit sit)

namespace Calculator
variable {c : Calculator} {shipment : Shipment} {discount : DiscountRate} {item : LineItem}
  {tariff : TariffItem}

theorem preApprovalItem_eq_ok {code : String} (h : c.preApprovalItem code = .ok tariff) :
    c.rates.tariffItem code = .ok tariff := by
  obtain ⟨found, known, h⟩ := bind_eq_ok.1 h
  split at h
  · rwa [← Except.ok.inj h]
  · contradiction

/-- An item that no price is due for stays as it is. -/
theorem settledItem_of_waiting (known : c.rates.tariffItem item.tariffCode = .ok tariff)
    (waiting : ¬ item.status.isPriceable) : c.settledItem shipment discount item = item := by
  cases invoiced : item.isInvoiced with
  | true => exact settledItem_of_isInvoiced invoiced
  | false =>
    simp [settledItem, outcome, invoiced, known, pricingAction, waiting, PricingOutcome.applyTo]

theorem alike_settledItem : item.Alike (c.settledItem shipment discount item) := by
  obtain ⟨_, _, same⟩ := PricingOutcome.applyTo_eq (c.outcome shipment discount item) item
  rw [settledItem, same]
  exact ⟨rfl, rfl, rfl, rfl, rfl, rfl, rfl⟩

theorem settledItem_status : (c.settledItem shipment discount item).status = item.status := by
  obtain ⟨_, _, same⟩ := PricingOutcome.applyTo_eq (c.outcome shipment discount item) item
  rw [settledItem, same, LineItem.withPrice]

/-- An item with something to price fails only where its charge does. -/
theorem outcome_of_basis (known : c.rates.tariffItem item.tariffCode = .ok tariff)
    (opened : item.isInvoiced = false) (approved : item.status.isPriceable)
    (delivered : shipment.status.isPriceable) (basis : item.hasPricingBasis tariff) :
    (∃ charge, c.lineItemCharge item shipment discount = .ok charge ∧
        c.outcome shipment discount item = .priced charge) ∨
      ∃ e, c.lineItemCharge item shipment discount = .error e ∧
        c.outcome shipment discount item = .failed e := by
  cases charged : c.lineItemCharge item shipment discount with
  | ok charge =>
    refine .inl ⟨charge, rfl, ?_⟩
    simp [outcome, opened, known, pricingAction, approved, delivered, basis, charged]
  | error e =>
    refine .inr ⟨e, rfl, ?_⟩
    simp [outcome, opened, known, pricingAction, approved, delivered, basis, charged]

theorem outcome_of_empty (known : c.rates.tariffItem item.tariffCode = .ok tariff)
    (opened : item.isInvoiced = false) (approved : item.status.isPriceable)
    (delivered : shipment.status.isPriceable) (empty : item.hasPricingBasis tariff = false) :
    c.outcome shipment discount item = .unpriced := by
  simp [outcome, opened, known, pricingAction, approved, delivered, empty]

end Calculator

namespace Recalculator
variable {r : Recalculator} {ids ids' : IdSupply} {now now' : Timestamp} {shipment : Shipment}
  {weight : Pounds} {miles : Miles} {discount : DiscountRate} {basket : Basket}
  {s t s' t' : Store} {report report' : RecalculationReport} {item approved : LineItem}

theorem settle_failures {x : LineItem} {e : Error} (mem : x ∈ basket.items)
    (failed : r.calculator.outcome shipment discount x = .failed e) :
    ⟨some x.id, x.tariffCode, e⟩ ∈ (r.settle basket shipment miles discount s).1.failures := by
  rw [settle_failures_eq]
  exact List.mem_append_right _
    (List.mem_filterMap.2 ⟨x, mem, PricingOutcome.failure?_eq_some.2 ⟨e, failed, rfl⟩⟩)

/-- Runs for one shipment in stores with the same carriers work with the same facts. -/
theorem run_congr (filed : t.Filed) (unused : t.UnusedGrouping ⟨ids' 0⟩) (same : t.SameCarriers s)
    (ran : r.run ids now shipment s = .ok (report, s'))
    (ran' : r.run ids' now' shipment t = .ok (report', t')) :
    ∃ linked weight miles discount, linked.id = shipment.id ∧ linked.status.isPriceable ∧
      t.shipmentDiscount linked = .ok discount ∧
      r.settle (r.refreshBasket ids now linked weight miles s) linked miles discount s =
        (report, s') ∧
      r.settle (r.refreshBasket ids' now' linked weight miles t) linked miles discount t =
        (report', t') := by
  obtain ⟨delivered, weight, pickup, delivery, miles, discount, linked, s₁, weighed, from_, to_,
    answer, resolved, settled⟩ := run_eq_ok.1 ran
  obtain ⟨_, weight', pickup', delivery', miles', discount', linked', t₁, weighed', from_', to_',
    answer', resolved', settled'⟩ := run_eq_ok.1 ran'
  obtain rfl := Option.some.inj (weighed.symm.trans weighed')
  obtain rfl := Option.some.inj (from_.symm.trans from_')
  obtain rfl := Option.some.inj (to_.symm.trans to_')
  obtain rfl := Except.ok.inj (answer.symm.trans answer')
  obtain ⟨rfl, there⟩ :
      t₁ = t ∧ r.resolveDiscount ⟨ids 0⟩ shipment s = .ok (discount', linked', s) :=
    resolveDiscount_congr unused same resolved'
  obtain ⟨rfl, rfl, rfl⟩ : discount = discount' ∧ linked = linked' ∧ s₁ = s := by
    simpa using resolved.symm.trans there
  refine ⟨linked, weight, miles, discount, resolveDiscount_id resolved, ?_, ?_, settled, settled'⟩
  · obtain ⟨⟨_, _, links⟩, -⟩ := resolveDiscount_frame resolved
    rw [links]
    exact delivered
  · obtain ⟨_, _, id, performance, _, _, link, found, _, rfl⟩ :=
      resolveDiscount_linked filed resolved'
    exact Store.shipmentDiscount_eq_ok.2 ⟨id, performance, link, found, rfl⟩

theorem alike_refreshBasket (filed : s.Filed) (stored : s.lineItems.get? item.id = some item)
    (moved : item.ApprovedAs approved) :
    (r.refreshBasket ids now shipment weight miles (s.saveLineItem approved)).Alike
      (r.refreshBasket ids' now' shipment weight miles s) := by
  have succeeds : s.Succeeds item approved :=
    ⟨moved.id ▸ stored, moved.shipmentId, moved.createdAt⟩
  refine Basket.Alike.refreshed ?_
  show List.Forall₂ _ ((s.saveLineItem approved).lineItemsOf shipment.id)
    (s.lineItemsOf shipment.id)
  rw [succeeds.lineItemsOf_saveLineItem filed]
  refine List.forall₂_map_left_iff.2 (List.forall₂_same.2 fun x mem => ?_)
  refine ⟨?_, .inl (LineItem.overwrittenBy_id x approved).symm⟩
  rcases succeeds.overwrittenBy_cases (filed.mem_lineItemsOf.1 mem).1 with ⟨rfl, same⟩ | same
  · rw [same]
    exact moved.alike
  · rw [same]
    exact .refl x

/-- After a run that finds the item approved, in `s'`, and one that finds it as it was, in
`t'`, the shipment is in both `after`, and the item is what `x` and `y` settle to. -/
structure Twins (r : Recalculator) (approved item : LineItem) (after : Shipment)
    (discount : DiscountRate) (report : RecalculationReport) (s' t' : Store) (x y : LineItem) :
    Prop where
  alike : x.Alike y
  first : approved.Requantified x
  second : item.Requantified y
  delivered : after.status.isPriceable
  shipment : s'.shipments.get? item.shipmentId = some after
  shipment' : t'.shipments.get? item.shipmentId = some after
  link : s'.shipmentDiscount after = .ok discount
  link' : t'.shipmentDiscount after = .ok discount
  stored : s'.lineItems.get? item.id = some (r.calculator.settledItem after discount x)
  stored' : t'.lineItems.get? item.id = some (r.calculator.settledItem after discount y)
  failures : ∀ e, r.calculator.outcome after discount x = .failed e →
    ∃ f ∈ report.failures, f.lineItemId = some item.id

/-- An item of the shipment stands in the refreshed basket under its id, alone, and in the
store after the settlement. -/
theorem settled_of_stored (filed : s.Filed) (fresh : ids.FreshFor s shipment.id)
    (stored : s.lineItems.get? item.id = some item) (owner : item.shipmentId = shipment.id)
    (settled : r.settle (r.refreshBasket ids now shipment weight miles s) shipment miles discount
      s = (report, s')) :
    ∃ x ∈ (r.refreshBasket ids now shipment weight miles s).items, item.Requantified x ∧
      s'.lineItems.get? item.id = some (r.calculator.settledItem shipment discount x) ∧
      (∀ y ∈ (r.refreshBasket ids now shipment weight miles s).items, y.id = item.id → y = x) ∧
      item.id ∉ (r.refreshBasket ids now shipment weight miles s).created := by
  have grows := r.refreshBasket_grows ids now shipment weight miles s
  have distinct : ((r.refreshBasket ids now shipment weight miles s).items.map (·.id)).Nodup :=
    Basket.nodup_ids filed fresh
  have mem : item ∈ s.lineItemsOf shipment.id := filed.mem_lineItemsOf.2 ⟨stored, owner⟩
  obtain ⟨x, memX, refreshed⟩ := grows.kept mem
  refine ⟨x, memX, refreshed, ?_, fun y memY same => ?_, fun made => ?_⟩
  · obtain rfl : _ = s' := congrArg Prod.snd settled
    rw [← refreshed.id_eq]
    exact settle_get?_of_grown filed distinct grows memX
  · exact List.inj_on_of_nodup_map distinct memY memX (same.trans refreshed.id_eq.symm)
  · rw [Basket.get?_of_mem_created fresh made] at stored
    contradiction

theorem twins_of_runs (filed : s.Filed) (stored : s.lineItems.get? item.id = some item)
    (owner : item.shipmentId = shipment.id) (moved : item.ApprovedAs approved)
    (fresh : ids.FreshFor (s.saveLineItem approved) shipment.id)
    (fresh' : ids'.FreshFor s shipment.id) (unused' : s.UnusedGrouping ⟨ids' 0⟩)
    (ran : r.run ids now shipment (s.saveLineItem approved) = .ok (report, s'))
    (ran' : r.run ids' now' shipment s = .ok (report', t')) :
    ∃ after discount x y, r.Twins approved item after discount report s' t' x y := by
  have carriers : s.SameCarriers (s.saveLineItem approved) := ⟨rfl, rfl, rfl, rfl⟩
  obtain ⟨linked, weight, miles, discount, sameId, delivered, link, settled, settled'⟩ :=
    run_congr filed unused' carriers ran ran'
  rw [← sameId] at owner fresh fresh'
  have filed₀ : (s.saveLineItem approved).Filed := filed.saveLineItem approved
  have stored₀ : (s.saveLineItem approved).lineItems.get? approved.id = some approved :=
    Store.get?_saveLineItem rfl
  obtain ⟨x, memX, first, storedX, -, notMade⟩ :=
    settled_of_stored filed₀ fresh stored₀ (moved.shipmentId.trans owner) settled
  obtain ⟨y, memY, second, storedY, alone, -⟩ :=
    settled_of_stored filed fresh' stored owner settled'
  -- The two are paired: the item that stands beside `x` has its id, as `x` has not been made.
  have alike : x.Alike y := by
    have paired :
        (r.refreshBasket ids now linked weight miles (s.saveLineItem approved)).Alike
          (r.refreshBasket ids' now' linked weight miles s) :=
      alike_refreshBasket filed stored moved
    obtain ⟨y', memY', alike, sameId | made⟩ := Basket.exists_after paired memX
    · rwa [← alone y' memY' (sameId.trans (first.id_eq.trans moved.id))]
    · rw [first.id_eq] at made
      exact absurd made notMade
  obtain rfl : _ = s' := congrArg Prod.snd settled
  obtain rfl : _ = t' := congrArg Prod.snd settled'
  obtain rfl : _ = report := congrArg Prod.fst settled
  refine ⟨r.charged linked miles discount, discount, x, y, alike, first, second, delivered,
    ?_, ?_, ?_, ?_, moved.id ▸ storedX, storedY, ?_⟩
  · rw [settle_store, SortedMap.get?_insert, if_pos owner]
  · rw [settle_store, SortedMap.get?_insert, if_pos owner]
  · rw [settle_store]
    exact link
  · rw [settle_store]
    exact link
  · intro e failed
    exact ⟨_, settle_failures memX failed, congrArg some (first.id_eq.trans moved.id)⟩

/-- The same with a delivery before each of the runs. -/
theorem twins_of_deliveries {date : Date} (filed : s.Filed)
    (stored : s.lineItems.get? item.id = some item) (moved : item.ApprovedAs approved)
    (fresh : ids.FreshFor (s.saveLineItem approved) item.shipmentId)
    (fresh' : ids'.FreshFor s item.shipmentId) (unused' : s.UnusedGrouping ⟨ids' 0⟩)
    (done : r.deliverAndPrice ids now item.shipmentId date (s.saveLineItem approved) =
      .ok (report, s'))
    (done' : r.deliverAndPrice ids' now' item.shipmentId date s = .ok (report', t')) :
    ∃ after discount x y, r.Twins approved item after discount report s' t' x y := by
  obtain ⟨old, shipment, delivered, found, left, leaving, ran⟩ := deliverAndPrice_iff.1 done
  obtain ⟨old', shipment', delivered', found', left', leaving', ran'⟩ :=
    deliverAndPrice_iff.1 done'
  obtain rfl := Option.some.inj (found.symm.trans found')
  obtain rfl := Except.ok.inj (left.symm.trans left')
  obtain rfl := Except.ok.inj (leaving.symm.trans leaving')
  have sameId := filed.shipments found
  obtain ⟨-, there⟩ := Shipment.deliver_eq_ok left
  have owner : item.shipmentId = shipment.id := by rw [there, ← sameId]
  have beside : s.Beside (delivered.foldl Store.saveSit s) := beside_saveDelivered delivered
  have demand := idDemand_saveDelivered (filed.saveLineItem approved) leaving item.shipmentId
  rw [Store.saveLineItem_foldl_saveSit] at ran demand
  rw [owner] at fresh fresh' demand
  refine twins_of_runs (beside.filed filed) (beside.lineItems ▸ stored) owner moved ?_ ?_ ?_
    ran ran'
  · exact fresh.congr demand (by rw [Store.saveLineItem, beside.lineItems]; rfl)
  · exact fresh'.congr (idDemand_saveDelivered filed leaving' _) beside.lineItems
  · exact unused'.congr beside.performances

end Recalculator

theorem LineItemStatus.transition_submitted {action : LineItemAction} {code : String}
    {status : LineItemStatus} (h : submitted.transition action code = .ok status) :
    (action = .approve ∧ status = .approved) ∨
      (action = .conditionallyApprove ∧ status = .conditionallyApproved) := by
  cases action
  · exact .inl ⟨rfl, (Except.ok.inj h).symm⟩
  · exact .inr ⟨rfl, (Except.ok.inj h).symm⟩

namespace LineItem
variable {item : LineItem} {tariff : TariffItem}

/-- What is approved on condition has an estimate to be priced by. -/
theorem hasPricingBasis_of_approval (conditional : item.approval = .conditionallyApprove)
    (code : tariff.code = item.tariffCode) : item.hasPricingBasis tariff := by
  unfold approval at conditional
  split at conditional
  · next estimated =>
    have actualCost : tariff.isActualCost = true := by
      rw [TariffItem.isActualCost, code]
      exact estimated.1
    simp [hasPricingBasis, actualCost, estimated.2.1]
  · contradiction

end LineItem

namespace Calculator
variable {c : Calculator} {s s' : Store} {id : LineItemId} {now : Timestamp}
  {item new : LineItem} {shipment : Shipment}

/-- An approval for a shipment that is not delivered changes status and date only. -/
theorem approveLineItem_early (stored : s.lineItems.get? id = some item)
    (owner : s.shipments.get? item.shipmentId = some shipment)
    (early : ¬ shipment.status.isPriceable) (h : c.approveLineItem now id s = .ok (new, s')) :
    ∃ status approvedDate tariff, c.rates.tariffItem item.tariffCode = .ok tariff ∧
      item.status.transition item.approval item.tariffCode = .ok status ∧
      new = { item with status, approvedDate } ∧ s' = s.saveLineItem new := by
  obtain ⟨old, tariff, shipment', approved, stored', offered, owner', applied, priced, rfl⟩ :=
    approveLineItem_iff.1 h
  obtain rfl := Option.some.inj (stored.symm.trans stored')
  obtain rfl := Option.some.inj (owner.symm.trans owner')
  obtain ⟨status, moved, rfl⟩ := LineItem.apply_eq_ok applied
  rw [priceApproved, if_neg fun ready => early ready.1] at priced
  obtain rfl := Except.ok.inj priced
  exact ⟨status, _, tariff, preApprovalItem_eq_ok offered, moved, rfl, rfl⟩

/-- An approval for a delivered shipment prices what is approved for good. -/
theorem approveLineItem_late {discount : DiscountRate} (stored : s.lineItems.get? id = some item)
    (owner : s.shipments.get? item.shipmentId = some shipment)
    (delivered : shipment.status.isPriceable) (link : s.shipmentDiscount shipment = .ok discount)
    (h : c.approveLineItem now id s = .ok (new, s')) :
    ∃ status approvedDate,
      item.status.transition item.approval item.tariffCode = .ok status ∧
      s' = s.saveLineItem new ∧
      ((status = .approved ∧ ∃ charge, c.lineItemCharge item shipment discount = .ok charge ∧
          new = LineItem.setPrice { item with status, approvedDate } charge) ∨
        (status ≠ .approved ∧ new = { item with status, approvedDate })) := by
  obtain ⟨old, tariff, shipment', approved, stored', offered, owner', applied, priced, rfl⟩ :=
    approveLineItem_iff.1 h
  obtain rfl := Option.some.inj (stored.symm.trans stored')
  obtain rfl := Option.some.inj (owner.symm.trans owner')
  obtain ⟨status, moved, rfl⟩ := LineItem.apply_eq_ok applied
  refine ⟨status, some (item.approvedDate.getD now), moved, rfl, ?_⟩
  unfold priceApproved at priced
  split at priced
  · next ready =>
    obtain ⟨discount', charge, link', charged, rfl⟩ := price_eq_ok priced
    obtain rfl := Except.ok.inj (link.symm.trans link')
    exact .inl ⟨ready.2, charge, charged, rfl⟩
  · next waiting =>
    obtain rfl := Except.ok.inj priced
    exact .inr ⟨fun done => waiting ⟨delivered, done⟩, rfl⟩

end Calculator

namespace Recalculator.Twins
variable {r : Recalculator} {c : Calculator} {approved item new x y : LineItem}
  {after : Shipment} {discount : DiscountRate} {report : RecalculationReport}
  {s t s' t' : Store} {tariff : TariffItem} {now : Timestamp}

/-- What an approval on condition rests on is still there. -/
theorem hasPricingBasis (twins : r.Twins approved item after discount report s t x y)
    (conditional : item.approval = .conditionallyApprove)
    (code : tariff.code = item.tariffCode) : x.hasPricingBasis tariff := by
  rw [← twins.second.approval_eq] at conditional
  rw [← twins.second.tariffCode_eq] at code
  rw [← twins.alike.hasPricingBasis]
  exact LineItem.hasPricingBasis_of_approval conditional code

/-- Approved by then, the item is priced if it has something to price and that succeeds. -/
theorem priced_first (twins : r.Twins approved item after discount report s t x y)
    (known : r.calculator.rates.tariffItem approved.tariffCode = .ok tariff)
    (opened : approved.isInvoiced = false) (priceable : approved.status.isPriceable)
    (succeeds : ∀ f ∈ report.failures, f.lineItemId ≠ some item.id)
    (basis : x.hasPricingBasis tariff) :
    ∃ charge, r.calculator.lineItemCharge x after discount = .ok charge ∧
      (r.calculator.settledItem after discount x).PricedAs (some charge) := by
  rw [← twins.first.tariffCode_eq] at known
  rw [← twins.first.isInvoiced_eq] at opened
  rw [← twins.first.status_eq] at priceable
  rcases Calculator.outcome_of_basis known opened priceable twins.delivered basis with
    ⟨charge, charged, outcome⟩ | ⟨e, -, failed⟩
  · refine ⟨charge, charged, ?_⟩
    rw [Calculator.settledItem, outcome]
    exact ⟨rfl, rfl⟩
  · obtain ⟨f, mem, about⟩ := twins.failures e failed
    exact absurd about (succeeds f mem)

/-- Approved by then, the item has no price if it has nothing to price. -/
theorem cleared_first (twins : r.Twins approved item after discount report s t x y)
    (known : r.calculator.rates.tariffItem approved.tariffCode = .ok tariff)
    (opened : approved.isInvoiced = false) (priceable : approved.status.isPriceable)
    (empty : x.hasPricingBasis tariff = false) :
    (r.calculator.settledItem after discount x).PricedAs none := by
  rw [← twins.first.tariffCode_eq] at known
  rw [← twins.first.isInvoiced_eq] at opened
  rw [← twins.first.status_eq] at priceable
  rw [Calculator.settledItem,
    Calculator.outcome_of_empty known opened priceable twins.delivered empty]
  exact ⟨rfl, rfl⟩

/-- Not approved by then, the item is left alone, and priced by an approval for good. -/
theorem priced_second (twins : r.Twins approved item after discount report s t x y)
    (rates : r.calculator.rates = c.rates)
    (known : c.rates.tariffItem item.tariffCode = .ok tariff)
    (submitted : item.status = .submitted)
    (approve : c.approveLineItem now item.id t = .ok (new, t')) :
    ∃ status, item.status.transition item.approval item.tariffCode = .ok status ∧
      t'.lineItems.get? item.id = some new ∧ new.status = status ∧
      ((status = .approved ∧ ∃ charge, r.calculator.lineItemCharge x after discount = .ok charge ∧
          new.PricedAs (some charge)) ∨
        (status ≠ .approved ∧ new.amount = item.amount ∧ new.appliedRate = item.appliedRate)) := by
  have waiting : ¬ y.status.isPriceable := by rw [twins.second.status_eq, submitted]; decide
  rw [← twins.second.tariffCode_eq, ← rates] at known
  have stored : t.lineItems.get? item.id = some y := by
    rw [twins.stored', Calculator.settledItem_of_waiting known waiting]
  have charges : c.lineItemCharge y after discount = r.calculator.lineItemCharge x after discount :=
    twins.alike.lineItemCharge rates.symm after discount
  obtain ⟨status, approvedDate, moved, rfl, ended⟩ := Calculator.approveLineItem_late stored
    (twins.second.shipmentId_eq ▸ twins.shipment') twins.delivered twins.link' approve
  rw [twins.second.status_eq, twins.second.approval_eq, twins.second.tariffCode_eq] at moved
  rcases ended with ⟨done, charge, charged, rfl⟩ | ⟨unapproved, rfl⟩
  · refine ⟨status, moved, Store.get?_saveLineItem twins.second.id_eq, rfl, .inl ?_⟩
    exact ⟨done, charge, charges ▸ charged, rfl, rfl⟩
  · refine ⟨status, moved, Store.get?_saveLineItem twins.second.id_eq, rfl, .inr ?_⟩
    exact ⟨unapproved, twins.second.amount_eq, twins.second.appliedRate_eq⟩

end Recalculator.Twins

/-- A request comes out as `x` where it is approved before its shipment is delivered, and as `y`
where it is approved after that. -/
structure Calculator.BothOrders (c : Calculator) (item : LineItem) (tariff : TariffItem)
    (shipment : Shipment) (discount : DiscountRate) (x y : LineItem) : Prop where
  moved : item.status.transition item.approval item.tariffCode = .ok x.status
  sameStatus : x.status = y.status
  estimated : item.approval = .conditionallyApprove → x.hasPricingBasis tariff
  early : x.hasPricingBasis tariff →
    ∃ charge, c.lineItemCharge x shipment discount = .ok charge ∧ x.PricedAs (some charge)
  cleared : x.hasPricingBasis tariff = false → x.PricedAs none
  late : x.status = .approved →
    ∃ charge, c.lineItemCharge x shipment discount = .ok charge ∧ y.PricedAs (some charge)
  kept : x.status ≠ .approved → y.amount = item.amount ∧ y.appliedRate = item.appliedRate

namespace Services
variable {v : Services} {data : ReferenceData} {ids ids' : IdSupply}
  {now₁ now₂ now₃ now₄ : Timestamp} {date : Date} {item : LineItem} {s s' t' : Store}
  {report report' : RecalculationReport}

/-- Approves a request and then delivers its shipment. -/
def approveThenDeliver (v : Services) (ids : IdSupply) (now later : Timestamp) (item : LineItem)
    (date : Date) (s : Store) : Except Error (RecalculationReport × Store) := do
  let (_, s) ← v.calculator.approveLineItem now item.id s
  v.recalculator.deliverAndPrice ids later item.shipmentId date s

/-- Delivers the shipment of a request and then approves it. -/
def deliverThenApprove (v : Services) (ids : IdSupply) (now later : Timestamp) (item : LineItem)
    (date : Date) (s : Store) : Except Error (RecalculationReport × Store) := do
  let (report, s) ← v.recalculator.deliverAndPrice ids now item.shipmentId date s
  let (_, s) ← v.calculator.approveLineItem later item.id s
  return (report, s)

section BothOrders
variable (accepted : RateTable.ofReference data = .ok v.calculator.rates)
  (rates : v.recalculator.calculator.rates = v.calculator.rates) (filed : s.Filed)
  (stored : s.lineItems.get? item.id = some item) (submitted : item.status = .submitted)
  (opened : item.isInvoiced = false) (fresh : ids.FreshFor s item.shipmentId)
  (fresh' : ids'.FreshFor s item.shipmentId) (unused' : s.UnusedGrouping ⟨ids' 0⟩)
  (first : v.approveThenDeliver ids now₁ now₂ item date s = .ok (report, s'))
  (second : v.deliverThenApprove ids' now₃ now₄ item date s = .ok (report', t'))
  (succeeds : ∀ f ∈ report.failures, f.lineItemId ≠ some item.id)
include accepted rates filed stored submitted opened fresh fresh' unused' first second succeeds

theorem exists_bothOrders :
    ∃ x y tariff shipment discount,
      s'.lineItems.get? item.id = some x ∧ t'.lineItems.get? item.id = some y ∧
      v.calculator.rates.tariffItem item.tariffCode = .ok tariff ∧
      s'.shipments.get? item.shipmentId = some shipment ∧
      s'.shipmentDiscount shipment = .ok discount ∧
      v.calculator.BothOrders item tariff shipment discount x y := by
  obtain ⟨⟨_, s₁⟩, approve, deliver⟩ := bind_eq_ok.1 first
  obtain ⟨⟨_, t₁⟩, deliver', second⟩ := bind_eq_ok.1 second
  obtain ⟨⟨y, t₂⟩, approve', done⟩ := bind_eq_ok.1 second
  obtain ⟨rfl, rfl⟩ := Prod.mk.inj (Except.ok.inj done)
  obtain ⟨moving, _, _, owner, left, -⟩ := Recalculator.deliverAndPrice_iff.1 deliver'
  have early : ¬ moving.status.isPriceable := by rw [(Shipment.deliver_eq_ok left).1]; decide
  obtain ⟨status, approvedDate, tariff, known, moved, rfl, rfl⟩ :=
    Calculator.approveLineItem_early stored owner early approve
  obtain ⟨shipment, discount, x, y₀, twins⟩ := Recalculator.twins_of_deliveries filed stored
    ⟨status, approvedDate, rfl⟩ (fresh.saveLineItem stored) fresh' unused' deliver deliver'
  have approved : status.isPriceable := LineItemStatus.isPriceable_of_transition moved
  obtain ⟨status', moved', storedY, statusY, ended⟩ :=
    twins.priced_second rates known submitted approve'
  obtain rfl := Except.ok.inj (moved'.symm.trans moved)
  have alike : x.Alike (v.recalculator.calculator.settledItem shipment discount x) :=
    Calculator.alike_settledItem
  have statusX : (v.recalculator.calculator.settledItem shipment discount x).status = status' :=
    Calculator.settledItem_status.trans twins.first.status_eq
  have charges : v.calculator.lineItemCharge
      (v.recalculator.calculator.settledItem shipment discount x) shipment discount =
        v.recalculator.calculator.lineItemCharge x shipment discount :=
    alike.lineItemCharge rates.symm shipment discount
  refine ⟨_, y, tariff, shipment, discount, twins.stored, storedY, known, twins.shipment,
    twins.link, ?_⟩
  constructor
  case moved => rwa [statusX]
  case sameStatus => exact statusX.trans statusY.symm
  case estimated =>
    intro conditional
    rw [alike.hasPricingBasis]
    exact twins.hasPricingBasis conditional (RateTable.code_of_tariffItem accepted known)
  case early =>
    intro basis
    rw [alike.hasPricingBasis] at basis
    rw [charges]
    exact twins.priced_first (rates ▸ known) opened approved succeeds basis
  case cleared =>
    intro empty
    rw [alike.hasPricingBasis] at empty
    exact twins.cleared_first (rates ▸ known) opened approved empty
  case late =>
    intro done
    rw [charges]
    rcases ended with ⟨-, priced⟩ | ⟨unapproved, -⟩
    · exact priced
    · exact absurd (statusX.symm.trans done) unapproved
  case kept =>
    intro unapproved
    rcases ended with ⟨done, -⟩ | ⟨-, kept⟩
    · exact absurd (statusX.trans done) unapproved
    · exact kept

/-- A request that is approved for good with nothing to price has no price where the approval
came before the delivery, since a recalculation clears it. Where the approval came after it, the
item has the price of its charge. -/
theorem empty_order (approval : item.approval = .approve) :
    ∃ x y tariff shipment discount,
      s'.lineItems.get? item.id = some x ∧ t'.lineItems.get? item.id = some y ∧
      v.calculator.rates.tariffItem item.tariffCode = .ok tariff ∧
      s'.shipments.get? item.shipmentId = some shipment ∧
      s'.shipmentDiscount shipment = .ok discount ∧
      x.status = .approved ∧ y.status = .approved ∧
      (x.hasPricingBasis tariff = false → x.PricedAs none ∧
        ∃ charge, v.calculator.lineItemCharge x shipment discount = .ok charge ∧
          y.PricedAs (some charge)) := by
  obtain ⟨x, y, tariff, shipment, discount, storedX, storedY, known, owner, link, both⟩ :=
    exists_bothOrders accepted rates filed stored submitted opened fresh fresh' unused' first
      second succeeds
  have approved : x.status = .approved := by
    have moved := both.moved
    rw [approval, submitted] at moved
    exact (Except.ok.inj moved).symm
  exact ⟨x, y, tariff, shipment, discount, storedX, storedY, known, owner, link, approved,
    both.sameStatus ▸ approved, fun empty => ⟨both.cleared empty, both.late approved⟩⟩

end BothOrders

/-- A request for no crating at all. -/
theorem empty_order_sample :
    let v := Sample.services
    let empty := { Sample.crating with quantity1 := .zero }
    let s := Sample.onTheWay empty
    ∃ report s' report' t' x y,
      v.approveThenDeliver Sample.ids Sample.time Sample.time empty (Sample.day 19030) s =
        .ok (report, s') ∧
      v.deliverThenApprove Sample.laterIds Sample.time Sample.time empty (Sample.day 19030) s =
        .ok (report', t') ∧
      s'.lineItems.get? empty.id = some x ∧ t'.lineItems.get? empty.id = some y ∧
      x.status = .approved ∧ y.status = .approved ∧
      x.amount = none ∧ y.amount = some ⟨0⟩ := by
  intro v empty s
  have accepted : RateTable.ofReference Sample.reference = .ok v.calculator.rates := rfl
  have offered : v.calculator.rates.tariffItem empty.tariffCode =
      .ok (Sample.tariffItem "105B" true .volume) := toOption_eq_some.1 (by decide +kernel)
  have fresh : Sample.ids.FreshFor s (Sample.id 1) := by decide +kernel
  have fresh' : Sample.laterIds.FreshFor s (Sample.id 1) := by decide +kernel
  have unused' : s.UnusedGrouping ⟨Sample.laterIds 0⟩ := by decide +kernel
  have first : (v.approveThenDeliver Sample.ids Sample.time Sample.time empty (Sample.day 19030)
      s).toOption.any fun done =>
        decide (∀ f ∈ done.1.failures, f.lineItemId ≠ some empty.id) &&
          (done.2.lineItems.get? empty.id).any fun x =>
            !x.hasPricingBasis (Sample.tariffItem "105B" true .volume) := by
    decide +kernel
  have second : (v.deliverThenApprove Sample.laterIds Sample.time Sample.time empty
      (Sample.day 19030) s).toOption.any fun done =>
        (done.2.lineItems.get? empty.id).any fun y => decide (y.amount = some ⟨0⟩) := by
    decide +kernel
  simp only [Option.any_eq_true, Bool.and_eq_true, Bool.not_eq_true', decide_eq_true_eq,
    Prod.exists] at first second
  obtain ⟨report, s', first, succeeds, x, storedX, nothing⟩ := first
  obtain ⟨report', t', second, y, storedY, amount⟩ := second
  have first := toOption_eq_some.1 first
  have second := toOption_eq_some.1 second
  obtain ⟨x', y', tariff, _, _, storedX', storedY', known, _, _, approvedX, approvedY, cleared⟩ :=
    empty_order accepted rfl (Sample.filed_onTheWay _) (Store.get?_saveLineItem rfl) rfl rfl fresh
      fresh' unused' first second succeeds rfl
  obtain rfl := Option.some.inj (storedX.symm.trans storedX')
  obtain rfl := Option.some.inj (storedY.symm.trans storedY')
  obtain rfl := Except.ok.inj (offered.symm.trans known)
  exact ⟨report, s', report', t', x, y, first, second, storedX, storedY, approvedX, approvedY,
    (cleared nothing).1.1, amount⟩

/-- A request is approved and delivered in both orders. Both leave it in the same status.
Approved for good with something to price, it has the same price. Approved on condition,
it has the price of its charge where that came before the delivery, and the price from
before where it came after. -/
theorem approval_order (accepted : RateTable.ofReference data = .ok v.calculator.rates)
    (rates : v.recalculator.calculator.rates = v.calculator.rates) (filed : s.Filed)
    (stored : s.lineItems.get? item.id = some item) (submitted : item.status = .submitted)
    (opened : item.isInvoiced = false) (fresh : ids.FreshFor s item.shipmentId)
    (fresh' : ids'.FreshFor s item.shipmentId) (unused' : s.UnusedGrouping ⟨ids' 0⟩)
    (first : v.approveThenDeliver ids now₁ now₂ item date s = .ok (report, s'))
    (second : v.deliverThenApprove ids' now₃ now₄ item date s = .ok (report', t'))
    (succeeds : ∀ f ∈ report.failures, f.lineItemId ≠ some item.id) :
    ∃ x y tariff shipment discount,
      s'.lineItems.get? item.id = some x ∧ t'.lineItems.get? item.id = some y ∧
      v.calculator.rates.tariffItem item.tariffCode = .ok tariff ∧
      s'.shipments.get? item.shipmentId = some shipment ∧
      s'.shipmentDiscount shipment = .ok discount ∧ x.status = y.status ∧
      ((item.approval = .approve ∧ x.status = .approved ∧
          (x.hasPricingBasis tariff → x.amount = y.amount ∧ x.appliedRate = y.appliedRate)) ∨
        (item.approval = .conditionallyApprove ∧ x.status = .conditionallyApproved ∧
          (∃ charge, v.calculator.lineItemCharge x shipment discount = .ok charge ∧
            x.amount = some charge.fee ∧ x.appliedRate = some charge.rate) ∧
          y.amount = item.amount ∧ y.appliedRate = item.appliedRate)) := by
  obtain ⟨x, y, tariff, shipment, discount, storedX, storedY, known, owner, link, both⟩ :=
    exists_bothOrders accepted rates filed stored submitted opened fresh fresh' unused' first
      second succeeds
  refine ⟨x, y, tariff, shipment, discount, storedX, storedY, known, owner, link,
    both.sameStatus, ?_⟩
  have moved := both.moved
  rw [submitted] at moved
  rcases LineItemStatus.transition_submitted moved with
    ⟨approval, approved⟩ | ⟨approval, conditional⟩
  · refine .inl ⟨approval, approved, fun basis => ?_⟩
    obtain ⟨charge, charged, amount, appliedRate⟩ := both.early basis
    obtain ⟨charge', charged', amount', appliedRate'⟩ := both.late approved
    obtain rfl := Except.ok.inj (charged.symm.trans charged')
    exact ⟨amount.trans amount'.symm, appliedRate.trans appliedRate'.symm⟩
  · have unapproved : x.status ≠ .approved := by rw [conditional]; decide
    exact .inr ⟨approval, conditional, both.early (both.estimated approval), both.kept unapproved⟩

/-- A request for crating, by which it is priced the same in both orders. -/
theorem approval_order_sample :
    let v := Sample.services
    let s := Sample.onTheWay Sample.crating
    ∃ report s' report' t' x y,
      v.approveThenDeliver Sample.ids Sample.time Sample.time Sample.crating (Sample.day 19030) s =
        .ok (report, s') ∧
      v.deliverThenApprove Sample.laterIds Sample.time Sample.time Sample.crating
        (Sample.day 19030) s = .ok (report', t') ∧
      s'.lineItems.get? Sample.crating.id = some x ∧
      t'.lineItems.get? Sample.crating.id = some y ∧
      x.status = .approved ∧ y.status = .approved ∧
      x.amount = some ⟨200⟩ ∧ y.amount = some ⟨200⟩ := by
  intro v s
  have accepted : RateTable.ofReference Sample.reference = .ok v.calculator.rates :=
    toOption_eq_some.1 (by decide +kernel)
  have filed : s.Filed := Sample.filed_onTheWay _
  have offered : v.calculator.rates.tariffItem Sample.crating.tariffCode =
      .ok (Sample.tariffItem "105B" true .volume) := toOption_eq_some.1 (by decide +kernel)
  have fresh : Sample.ids.FreshFor s (Sample.id 1) := by decide +kernel
  have fresh' : Sample.laterIds.FreshFor s (Sample.id 1) := by decide +kernel
  have unused' : s.UnusedGrouping ⟨Sample.laterIds 0⟩ := by decide +kernel
  have first : (v.approveThenDeliver Sample.ids Sample.time Sample.time Sample.crating
      (Sample.day 19030) s).toOption.any fun done =>
        decide (∀ f ∈ done.1.failures, f.lineItemId ≠ some Sample.crating.id) &&
          (done.2.lineItems.get? Sample.crating.id).any fun x =>
            x.hasPricingBasis (Sample.tariffItem "105B" true .volume) &&
              decide (x.amount = some ⟨200⟩) := by
    decide +kernel
  have second : (v.deliverThenApprove Sample.laterIds Sample.time Sample.time Sample.crating
      (Sample.day 19030) s).toOption.isSome := by
    decide +kernel
  simp only [Option.any_eq_true, Bool.and_eq_true, decide_eq_true_eq, Prod.exists] at first
  obtain ⟨report, s', first, succeeds, x', stored', basis, amount⟩ := first
  obtain ⟨⟨report', t'⟩, second⟩ := Option.isSome_iff_exists.1 second
  have first := toOption_eq_some.1 first
  have second := toOption_eq_some.1 second
  obtain ⟨x, y, tariff, _, _, storedX, storedY, known, _, _, same, ended⟩ :=
    approval_order accepted rfl filed (Store.get?_saveLineItem rfl) rfl rfl fresh fresh' unused'
      first second succeeds
  obtain rfl := Option.some.inj (stored'.symm.trans storedX)
  obtain rfl := Except.ok.inj (offered.symm.trans known)
  refine ⟨report, s', report', t', x', y, first, second, storedX, storedY, ?_⟩
  rcases ended with ⟨-, approved, priced⟩ | ⟨conditional, -⟩
  · exact ⟨approved, same ▸ approved, amount, (priced basis).1 ▸ amount⟩
  · contradiction

/-- A request that is approved on its estimate alone has a price in one order and none in
the other, though neither run fails for it. -/
theorem estimate_order_sample :
    let v := Sample.services
    let s := Sample.onTheWay Sample.estimate
    (RateTable.ofReference Sample.reference).toOption = some v.calculator.rates ∧
      v.recalculator.calculator.rates = v.calculator.rates ∧ s.Filed ∧
      s.lineItems.get? Sample.estimate.id = some Sample.estimate ∧
      Sample.estimate.status = .submitted ∧ Sample.estimate.isInvoiced = false ∧
      ∃ report s' report' t' x y,
        v.approveThenDeliver Sample.ids Sample.time Sample.time Sample.estimate
          (Sample.day 19030) s = .ok (report, s') ∧
        v.deliverThenApprove Sample.laterIds Sample.time Sample.time Sample.estimate
          (Sample.day 19030) s = .ok (report', t') ∧
        (∀ f ∈ report.failures, f.lineItemId ≠ some Sample.estimate.id) ∧
        (∀ f ∈ report'.failures, f.lineItemId ≠ some Sample.estimate.id) ∧
        s'.lineItems.get? Sample.estimate.id = some x ∧
        t'.lineItems.get? Sample.estimate.id = some y ∧
        x.amount = some ⟨5000⟩ ∧ y.amount = none := by
  intro v s
  have filed : s.Filed := Sample.filed_onTheWay _
  refine ⟨by decide +kernel, rfl, filed, Store.get?_saveLineItem rfl, rfl, rfl, ?_⟩
  have first : (v.approveThenDeliver Sample.ids Sample.time Sample.time Sample.estimate
      (Sample.day 19030) s).toOption.any fun done =>
        decide (∀ f ∈ done.1.failures, f.lineItemId ≠ some Sample.estimate.id) &&
          (done.2.lineItems.get? Sample.estimate.id).any fun x => decide (x.amount = some ⟨5000⟩) := by
    decide +kernel
  have second : (v.deliverThenApprove Sample.laterIds Sample.time Sample.time Sample.estimate
      (Sample.day 19030) s).toOption.any fun done =>
        decide (∀ f ∈ done.1.failures, f.lineItemId ≠ some Sample.estimate.id) &&
          (done.2.lineItems.get? Sample.estimate.id).any fun y => decide (y.amount = none) := by
    decide +kernel
  simp only [Option.any_eq_true, Bool.and_eq_true, decide_eq_true_eq, Prod.exists] at first second
  obtain ⟨report, s', first, succeeds, x, storedX, priced⟩ := first
  obtain ⟨report', t', second, succeeds', y, storedY, unpriced⟩ := second
  exact ⟨report, s', report', t', x, y, toOption_eq_some.1 first, toOption_eq_some.1 second,
    succeeds, succeeds', storedX, storedY, priced, unpriced⟩

end Services
end Haulage
