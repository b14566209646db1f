import Haulage.Proofs.Age
import Haulage.Proofs.Assignment
import Haulage.Proofs.Basket.Growth
import Haulage.Proofs.Requests

/-! What a recalculation writes: every item of the basket that is not invoiced, with the
price that its outcome leaves it, and the shipment with its links and its own charge. No
outcome depends on the price that an item already has. -/
namespace Haulage

/-- The item has the fee and rate of the charge; without a charge it has neither. -/
def LineItem.PricedAs (item : LineItem) (charge : Option FeeAndRate) : Prop :=
  item.amount = charge.map (·.fee) ∧ item.appliedRate = charge.map (·.rate)

theorem LineItem.PricedAs.unique {item : LineItem} {a b : Option FeeAndRate}
    (h : item.PricedAs a) (h' : item.PricedAs b) : a = b := by
  have fees : a.map (·.fee) = b.map (·.fee) := h.1.symm.trans h'.1
  have rates : a.map (·.rate) = b.map (·.rate) := h.2.symm.trans h'.2
  cases a with
  | none => exact (Option.map_eq_none_iff.1 fees.symm).symm
  | some charge =>
    obtain ⟨other, rfl, sameFee⟩ := Option.map_eq_some_iff.1 fees.symm
    obtain ⟨fee, rate⟩ := charge
    obtain ⟨fee', rate'⟩ := other
    obtain rfl : fee' = fee := sameFee
    obtain rfl : rate = rate' := Option.some.inj rates
    rfl

namespace PricingOutcome
variable (o : PricingOutcome) (item : LineItem)

/-- An outcome moves nothing but the price. -/
theorem applyTo_eq : ∃ amount appliedRate, o.applyTo item = item.withPrice amount appliedRate := by
  cases o <;> exact ⟨_, _, rfl⟩

@[simp] theorem applyTo_id : (o.applyTo item).id = item.id := by cases o <;> rfl

@[simp] theorem applyTo_shipmentId : (o.applyTo item).shipmentId = item.shipmentId := by
  cases o <;> rfl

@[simp] theorem applyTo_tariffCode : (o.applyTo item).tariffCode = item.tariffCode := by
  cases o <;> rfl

theorem applyTo_applyTo : o.applyTo (o.applyTo item) = o.applyTo item := by cases o <;> rfl

/-- What a report says of an item that could not be priced. -/
def failure? (item : LineItem) : PricingOutcome → Option PricingFailure
  | failed e => some ⟨some item.id, item.tariffCode, e⟩
  | _ => none

variable {o item}

theorem failure?_eq_some {failure : PricingFailure} : o.failure? item = some failure ↔
    ∃ e, o = .failed e ∧ failure = ⟨some item.id, item.tariffCode, e⟩ := by
  cases o <;> simp [failure?, eq_comm]

theorem failure?_eq_none : o.failure? item = none ↔ ∀ e, o ≠ .failed e := by
  cases o <;> simp [failure?]

end PricingOutcome

namespace Calculator
variable {c : Calculator} {shipment : Shipment} {discount : DiscountRate} {item : LineItem}

theorem outcome_applyTo (o : PricingOutcome) :
    c.outcome shipment discount (o.applyTo item) = c.outcome shipment discount item := by
  cases o <;> rfl

theorem outcome_eq_invoiced_iff :
    c.outcome shipment discount item = .invoiced ↔ item.isInvoiced = true := by
  unfold outcome
  split
  · next invoiced => simp [invoiced]
  · next opened =>
    refine iff_of_false ?_ opened
    repeat' split
    all_goals nofun

/-- The item with the price that its own outcome leaves it. -/
def settledItem (c : Calculator) (shipment : Shipment) (discount : DiscountRate)
    (item : LineItem) : LineItem :=
  (c.outcome shipment discount item).applyTo item

theorem settledItem_of_isInvoiced (invoiced : item.isInvoiced) :
    c.settledItem shipment discount item = item := by
  rw [settledItem, outcome_eq_invoiced_iff.2 invoiced, PricingOutcome.applyTo]

theorem settledItem_settledItem :
    c.settledItem shipment discount (c.settledItem shipment discount item) =
      c.settledItem shipment discount item := by
  simp only [settledItem, outcome_applyTo, PricingOutcome.applyTo_applyTo]

theorem repriced_settledItem (opened : item.isInvoiced = false) :
    c.Repriced (.ok discount) shipment item (c.settledItem shipment discount item) := by
  unfold settledItem outcome
  rw [if_neg (by simp [opened])]
  split
  · exact .cleared
  · next tariff _ =>
    split
    · next action =>
      obtain ⟨approved, delivered⟩ := pricingAction_ne_skip (by rw [action]; nofun)
      split
      · next charge charged => exact .priced approved delivered rfl charged
      · exact .cleared
    · exact .cleared
    · next action => exact .early (pricingAction_eq_skip opened action)

theorem written_outcomes (items : List LineItem) :
    PricingOutcome.written (items.map fun item => (item, c.outcome shipment discount item)) =
      (items.filter (!·.isInvoiced)).map (c.settledItem shipment discount) := by
  rw [PricingOutcome.written, List.filter_map, List.map_map]
  congr 1
  refine List.filter_congr fun item _ => ?_
  simp [outcome_eq_invoiced_iff]

end Calculator

theorem Store.saveLineItems_eq (s : Store) (xs : List LineItem) :
    s.saveLineItems xs =
      { s with lineItems := xs.foldl (fun m x => m.insert x.id x) s.lineItems } := by
  induction xs generalizing s with
  | nil => rfl
  | cons x rest ih => exact ih (s.saveLineItem x)

namespace Recalculator
variable {r : Recalculator} {ids : IdSupply} {now : Timestamp} {shipment : Shipment}
  {weight : Pounds} {miles : Miles} {discount : DiscountRate} {basket : Basket} {s s' : Store}

/-- The shipment with the charge of its own linehaul. -/
def charged (r : Recalculator) (shipment : Shipment) (miles : Miles) (discount : DiscountRate) :
    Shipment :=
  { shipment with linehaulCharge := (r.linehaul shipment miles discount).1 }

/-- The line items that a settlement writes. -/
def settledItems (r : Recalculator) (shipment : Shipment) (discount : DiscountRate)
    (items : List LineItem) : List LineItem :=
  (items.filter (!·.isInvoiced)).map (r.calculator.settledItem shipment discount)

theorem settle_failures_eq : (r.settle basket shipment miles discount s).1.failures =
    (r.linehaul shipment miles discount).2 ++ basket.items.filterMap fun item =>
      (r.calculator.outcome (r.charged shipment miles discount) discount item).failure? item := by
  refine congrArg ((r.linehaul shipment miles discount).2 ++ ·) ?_
  rw [List.filterMap_map]
  refine List.filterMap_congr fun item _ => ?_
  show _ = PricingOutcome.failure? item
    (r.calculator.outcome (r.charged shipment miles discount) discount item)
  unfold charged linehaul
  generalize outcome : r.calculator.outcome _ discount item = o
  simp only [Function.comp_apply, outcome]
  cases o <;> rfl

theorem settle_store :
    (r.settle basket shipment miles discount s).2 =
      { s with
        lineItems := (r.settledItems shipment discount basket.items).foldl
          (fun m x => m.insert x.id x) s.lineItems
        shipments := s.shipments.insert shipment.id (r.charged shipment miles discount) } := by
  simp only [settle, Calculator.written_outcomes, Store.saveLineItems_eq]
  rfl

theorem filed_settle (filed : s.Filed) : (r.settle basket shipment miles discount s).2.Filed := by
  rw [settle_store]
  exact { filed with
    lineItems := filed.lineItems.foldl_insert
    shipments := filed.shipments.insert (r.charged shipment miles discount) }

theorem mem_settledItems {items : List LineItem} {item : LineItem} :
    item ∈ r.settledItems shipment discount items ↔
      ∃ old ∈ items, old.isInvoiced = false ∧
        r.calculator.settledItem shipment discount old = item := by
  simp [settledItems, and_assoc]

theorem settledItem_id (item : LineItem) :
    (r.calculator.settledItem shipment discount item).id = item.id :=
  PricingOutcome.applyTo_id _ _

/-- What stands in the table of line items after a settlement. -/
theorem settle_get?_cases {id : LineItemId} {item : LineItem}
    (h : (r.settle basket shipment miles discount s).2.lineItems.get? id = some item) :
    (∃ old ∈ basket.items, old.isInvoiced = false ∧ old.id = id ∧
        item = r.calculator.settledItem shipment discount old) ∨
      (s.lineItems.get? id = some item ∧
        ∀ old ∈ basket.items, old.isInvoiced = false → old.id ≠ id) := by
  rw [settle_store] at h
  rcases SortedMap.get?_foldl_insert h with ⟨mem, same⟩ | ⟨before, others⟩
  · obtain ⟨old, memOld, opened, rfl⟩ := mem_settledItems.1 mem
    exact .inl ⟨old, memOld, opened, settledItem_id old ▸ same, rfl⟩
  · refine .inr ⟨before, fun old memOld opened => ?_⟩
    exact settledItem_id old ▸ others _ (mem_settledItems.2 ⟨old, memOld, opened, rfl⟩)

theorem settle_get?_of_mem (distinct : (basket.items.map (·.id)).Nodup) {old : LineItem}
    (mem : old ∈ basket.items) (opened : old.isInvoiced = false) :
    (r.settle basket shipment miles discount s).2.lineItems.get? old.id =
      some (r.calculator.settledItem shipment discount old) := by
  have same : LineItem.id ∘ r.calculator.settledItem shipment discount = LineItem.id :=
    funext settledItem_id
  have distinct' : ((r.settledItems shipment discount basket.items).map (·.id)).Nodup := by
    rw [settledItems, List.map_map, same]
    exact distinct.sublist (List.filter_sublist.map _)
  rw [settle_store, ← settledItem_id old]
  exact SortedMap.get?_foldl_insert_of_mem distinct' (mem_settledItems.2 ⟨old, mem, opened, rfl⟩)

theorem settle_get?_of_forall_ne {id : LineItemId}
    (others : ∀ old ∈ basket.items, old.isInvoiced = false → old.id ≠ id) :
    (r.settle basket shipment miles discount s).2.lineItems.get? id = s.lineItems.get? id := by
  rw [settle_store]
  refine SortedMap.get?_foldl_insert_of_forall_ne fun item mem => ?_
  obtain ⟨old, memOld, opened, rfl⟩ := mem_settledItems.1 mem
  exact settledItem_id old ▸ others old memOld opened

theorem run_eq_ok {report : RecalculationReport} :
    r.run ids now shipment s = .ok (report, s') ↔
      shipment.status.isPriceable ∧
      ∃ weight pickup delivery miles discount linked s₁,
        shipment.netWeight = some weight ∧ shipment.pickupAddress = some pickup ∧
        shipment.deliveryAddress = some delivery ∧
        r.planner.distance pickup delivery r.distanceTimeout = .ok miles ∧
        r.resolveDiscount ⟨ids 0⟩ shipment s = .ok (discount, linked, s₁) ∧
        r.settle (r.refreshBasket ids now linked weight miles s₁) linked miles discount s₁ =
          (report, s') := by
  unfold run
  by_cases priceable : shipment.status.isPriceable
  · simp only [priceable, not_true_eq_false, if_false, bind_eq_ok, true_and, pure, Except.pure,
      Except.ok.injEq, Prod.exists, Shipment.requireNetWeight_eq_ok,
      Shipment.requirePickupAddress_eq_ok, Shipment.requireDeliveryAddress_eq_ok]
    constructor
    · rintro ⟨weight, known, pickup, from_, delivery, to_, miles, answer, discount, linked, s₁,
        resolved, settled⟩
      exact ⟨weight, pickup, delivery, miles, discount, linked, s₁, known, from_, to_, answer,
        resolved, settled⟩
    · rintro ⟨weight, pickup, delivery, miles, discount, linked, s₁, known, from_, to_, answer,
        resolved, settled⟩
      exact ⟨weight, known, pickup, from_, delivery, to_, miles, answer, discount, linked, s₁,
        resolved, settled⟩
  · simp only [priceable, Bool.false_eq_true, not_false_eq_true, if_true, false_and, iff_false]
    nofun

theorem recalculate_eq_ok {id : ShipmentId} {report : RecalculationReport} :
    r.recalculate ids now id s = .ok (report, s') ↔
      ∃ shipment, s.shipments.get? id = some shipment ∧
        r.run ids now shipment s = .ok (report, s') := by
  simp only [recalculate, bind_eq_ok, Store.loadShipment_eq_ok]

theorem filed_run {report : RecalculationReport} (filed : s.Filed)
    (h : r.run ids now shipment s = .ok (report, s')) : s'.Filed := by
  obtain ⟨_, weight, _, _, miles, discount, linked, s₁, _, _, _, _, resolved, settled⟩ :=
    run_eq_ok.1 h
  obtain rfl : _ = s' := congrArg Prod.snd settled
  exact filed_settle ((resolveDiscount_beside resolved).filed filed)

/-- An item that a run prices: one of the shipment, in new quantities, or one made now. -/
inductive Drawn (s : Store) (id : ShipmentId) : LineItem → Prop
  | kept {key : LineItemId} {old item : LineItem} : s.lineItems.get? key = some old →
      old.shipmentId = id → old.Requantified item → Drawn s id item
  | made {key : LineItemId} {now : Timestamp} {item : LineItem} : item.Made key id now →
      Drawn s id item

/-- From `s`, a run for the shipment `id` leads to `s'`, where the shipment is `after`. -/
structure Ran (r : Recalculator) (s : Store) (id : ShipmentId) (after : Shipment)
    (discount : DiscountRate) (s' : Store) : Prop where
  delivered : after.status.isPriceable
  link : s.Filed → s.shipmentDiscount after = .ok discount
  performances : s'.performances = s.performances
  shipments : s'.shipments = s.shipments.insert id after
  lineItems : ∀ ⦃key item⦄, s'.lineItems.get? key = some item →
    (∃ before, Drawn s id before ∧ r.calculator.Repriced (.ok discount) after before item) ∨
      s.lineItems.get? key = some item ∧ (s.Filed → item.shipmentId = id → item.isInvoiced)

theorem refreshBasket_grows (r : Recalculator) (ids : IdSupply) (now : Timestamp)
    (shipment : Shipment) (weight : Pounds) (miles : Miles) (s : Store) :
    Basket.Grows ids shipment.id now { items := s.lineItemsOf shipment.id, created := [] }
      (r.refreshBasket ids now shipment weight miles s) :=
  Basket.refreshed_grows _ r.calculator.rates weight miles (s.sitsOf shipment.id)

section Grown
variable {id : ShipmentId}

/-- Every item of a basket belongs to the shipment; one that is invoiced stood in the
store before. -/
theorem grown_shipmentId (filed : s.Filed) {item : LineItem}
    (grows : Basket.Grows ids id now { items := s.lineItemsOf id, created := [] } basket)
    (mem : item ∈ basket.items) : item.shipmentId = id := by
  rcases grows.origin mem with ⟨old, memOld, refreshed⟩ | ⟨_, _, made⟩
  · rw [refreshed.shipmentId_eq]
    exact (filed.mem_lineItemsOf.1 memOld).2
  · exact made.shipmentId_eq

theorem grown_get?_of_isInvoiced (filed : s.Filed) {item : LineItem}
    (grows : Basket.Grows ids id now { items := s.lineItemsOf id, created := [] } basket)
    (mem : item ∈ basket.items) (invoiced : item.isInvoiced = true) :
    s.lineItems.get? item.id = some item := by
  rcases grows.origin mem with ⟨old, memOld, refreshed⟩ | ⟨_, _, made⟩
  · obtain rfl := refreshed.eq_of_isInvoiced invoiced
    exact (filed.mem_lineItemsOf.1 memOld).1
  · rw [made.isInvoiced_eq] at invoiced
    contradiction

/-- What a settlement leaves in the table: an item of the basket in its new price, or what
stood there for another shipment. -/
theorem settle_get?_origin (filed : s.Filed) {key : LineItemId} {item : LineItem}
    (grows : Basket.Grows ids id now { items := s.lineItemsOf id, created := [] } basket)
    (stored : (r.settle basket shipment miles discount s).2.lineItems.get? key = some item) :
    (∃ old ∈ basket.items, old.id = key ∧ item = r.calculator.settledItem shipment discount old) ∨
      (s.lineItems.get? key = some item ∧ item.shipmentId ≠ id) := by
  rcases settle_get?_cases stored with ⟨old, mem, _, same, settled⟩ | ⟨before, others⟩
  · exact .inl ⟨old, mem, same, settled⟩
  · by_cases owner : item.shipmentId = id
    · obtain rfl : item.id = key := filed.lineItems before
      obtain ⟨new, mem, kept⟩ := grows.kept (filed.mem_lineItemsOf.2 ⟨before, owner⟩)
      have invoiced : new.isInvoiced = true := by
        by_contra opened
        exact others new mem (Bool.eq_false_iff.2 opened) kept.id_eq
      obtain rfl := kept.eq_of_isInvoiced invoiced
      exact .inl ⟨item, mem, rfl, (Calculator.settledItem_of_isInvoiced invoiced).symm⟩
    · exact .inr ⟨before, owner⟩

end Grown

theorem ran_of_run {report : RecalculationReport}
    (h : r.run ids now shipment s = .ok (report, s')) :
    ∃ after discount, r.Ran s shipment.id after discount s' := by
  obtain ⟨delivered, weight, _, _, miles, discount, linked, s₁, _, _, _, _, resolved, settled⟩ :=
    run_eq_ok.1 h
  obtain rfl : _ = s' := congrArg Prod.snd settled
  have beside := resolveDiscount_beside resolved
  obtain ⟨⟨groupingId, performanceId, links⟩, -⟩ := resolveDiscount_frame resolved
  have sameId : linked.id = shipment.id := by rw [links]
  have grows := r.refreshBasket_grows ids now linked weight miles s₁
  refine ⟨r.charged linked miles discount, discount, ?_, ?_, ?_, ?_, ?_⟩
  · rw [links]
    exact delivered
  · intro filed
    obtain ⟨_, _, id, performance, _, _, link, found, _, rfl⟩ :=
      resolveDiscount_linked filed resolved
    rw [beside.performances] at found
    exact Store.shipmentDiscount_eq_ok.2 ⟨id, performance, link, found, rfl⟩
  · rw [settle_store]
    exact beside.performances
  · rw [settle_store, ← sameId, ← beside.shipments]
  · intro key item stored
    rcases settle_get?_cases stored with ⟨old, mem, opened, _, rfl⟩ | ⟨before, others⟩
    · refine .inl ⟨old, ?_, Calculator.repriced_settledItem opened⟩
      rcases grows.origin mem with ⟨first, memFirst, refreshed⟩ | ⟨_, _, made⟩
      · obtain ⟨⟨key, stood⟩, owner⟩ := Store.of_mem_lineItemsOf memFirst
        exact .kept (beside.lineItems ▸ stood) (owner.trans sameId) refreshed
      · exact .made (sameId ▸ made)
    · refine .inr ⟨beside.lineItems ▸ before, fun filed owner => ?_⟩
      have filed₁ := beside.filed filed
      have sameKey : item.id = key := filed₁.lineItems before
      obtain ⟨new, mem, refreshed⟩ := grows.kept
        (filed₁.mem_lineItemsOf.2 ⟨sameKey.symm ▸ before, owner.trans sameId.symm⟩)
      by_contra opened
      refine others new mem ?_ (refreshed.id_eq.trans sameKey)
      rw [refreshed.isInvoiced_eq]
      exact Bool.eq_false_iff.2 opened

end Recalculator
end Haulage
