import Haulage.Proofs.Filing
import Haulage.Request

/-! What the operations on requests do when they succeed: one line item is saved or
erased, and beside it only measurements and addresses change. A price that is set is the
charge for the performance that the shipment is linked to. -/
namespace Haulage

namespace Store
variable {s s' : Store}

/-- The discount is that of the linked performance. -/
theorem shipmentDiscount_eq_ok {shipment : Shipment} {discount : DiscountRate} :
    s.shipmentDiscount shipment = .ok discount ↔
      ∃ id performance, shipment.performanceId = some id ∧
        s.performances.get? id = some performance ∧ performance.linehaulRate = discount := by
  simp only [shipmentDiscount, bind_eq_ok, require_eq_ok, pure, Except.pure, Except.ok.injEq]
  constructor
  · rintro ⟨id, link, performance, found, same⟩
    exact ⟨id, performance, link, found, same⟩
  · rintro ⟨id, performance, link, found, same⟩
    exact ⟨id, link, performance, found, same⟩

end Store

namespace RequestForm
variable {form : RequestForm} {item item' : LineItem} {s s' : Store}

/-- What becomes of the measurements in a slot: new ones are written, under the id that the slot
has if it has one; old ones that nothing replaces are erased. -/
inductive Replaces (s : Store) :
    Option DimensionsId → Option Dimensions → Option DimensionsId → Store → Prop
  | written (existing : Option DimensionsId) (d : Dimensions) :
      Replaces s existing (some d) (some (existing.getD d.id))
        (s.saveDimensions { d with id := existing.getD d.id })
  | erased {id : DimensionsId} : (s.dimensions.get? id).isSome →
      Replaces s (some id) none none { s with dimensions := s.dimensions.erase id }
  | absent : Replaces s none none none s

theorem replaceDimensions_eq_ok {existing id : Option DimensionsId}
    {replacement : Option Dimensions}
    (h : replaceDimensions existing replacement s = .ok (id, s')) :
    Replaces s existing replacement id s' := by
  unfold replaceDimensions at h
  split at h
  · obtain ⟨rfl, rfl⟩ := Prod.mk.inj (Except.ok.inj h)
    exact .written _ _
  · obtain ⟨s₁, erased, h⟩ := bind_eq_ok.1 h
    obtain ⟨present, rfl⟩ := Store.deleteDimensions_eq_ok.1 (ofStore_eq_ok.1 erased)
    obtain ⟨rfl, rfl⟩ := Prod.mk.inj (Except.ok.inj h)
    exact .erased present
  · obtain ⟨rfl, rfl⟩ := Prod.mk.inj (Except.ok.inj h)
    exact .absent

theorem Replaces.beside {existing id : Option DimensionsId} {replacement : Option Dimensions}
    (replaces : Replaces s existing replacement id s') : s.Beside s' := by
  cases replaces with
  | written => exact Store.beside_saveDimensions _
  | erased => exact Store.beside_eraseDimensions _
  | absent => exact .refl s

theorem beside_replaceAddress {existing id : Option AddressId} {replacement : Option Address}
    (h : replaceAddress existing replacement s = .ok (id, s')) : s.Beside s' := by
  unfold replaceAddress at h
  split at h
  · obtain ⟨-, rfl⟩ := Prod.mk.inj (Except.ok.inj h)
    exact Store.beside_saveAddress _
  · obtain ⟨s₁, erased, h⟩ := bind_eq_ok.1 h
    obtain ⟨-, rfl⟩ := Store.deleteAddress_eq_ok.1 (ofStore_eq_ok.1 erased)
    obtain ⟨-, rfl⟩ := Prod.mk.inj (Except.ok.inj h)
    exact Store.beside_eraseAddress _
  · obtain ⟨-, rfl⟩ := Prod.mk.inj (Except.ok.inj h)
    exact .refl s

end RequestForm

/-- `item` is `old` with other entries of the user and other records that go with it. -/
structure LineItem.Refilled (old item : LineItem) : Prop where
  id : item.id = old.id
  shipmentId : item.shipmentId = old.shipmentId
  status : item.status = old.status
  invoiceId : item.invoiceId = old.invoiceId
  amount : item.amount = old.amount
  appliedRate : item.appliedRate = old.appliedRate

/-- Filling in a form puts the entries of the user on the item, and then its measurements, its
crate's and its address in their places. -/
theorem RequestForm.applyTo_parts {form : RequestForm} {item item' : LineItem} {s s' : Store}
    (h : form.applyTo item s = .ok (item', s')) :
    ∃ itemDimensionsId crateDimensionsId addressId s₁ s₂,
      Replaces s item.itemDimensionsId form.itemDimensions itemDimensionsId s₁ ∧
      Replaces s₁ item.crateDimensionsId form.crateDimensions crateDimensionsId s₂ ∧
      replaceAddress item.addressId form.address s₂ = .ok (addressId, s') ∧
      item' = { form.fill item with itemDimensionsId, crateDimensionsId, addressId } := by
  obtain ⟨_, _, h⟩ := bind_eq_ok.1 h
  obtain ⟨⟨itemId, s₁⟩, itemSizes, h⟩ := bind_eq_ok.1 h
  obtain ⟨⟨crateId, s₂⟩, crateSizes, h⟩ := bind_eq_ok.1 h
  obtain ⟨⟨addressId, s₃⟩, address, h⟩ := bind_eq_ok.1 h
  obtain ⟨rfl, rfl⟩ := Prod.mk.inj (Except.ok.inj h)
  exact ⟨itemId, crateId, addressId, s₁, s₂, replaceDimensions_eq_ok itemSizes,
    replaceDimensions_eq_ok crateSizes, address, rfl⟩

theorem RequestForm.applyTo_eq_ok {form : RequestForm} {item item' : LineItem} {s s' : Store}
    (h : form.applyTo item s = .ok (item', s')) : item.Refilled item' ∧ s.Beside s' := by
  obtain ⟨_, _, _, s₁, s₂, itemSizes, crateSizes, address, rfl⟩ := applyTo_parts h
  refine ⟨⟨rfl, rfl, rfl, rfl, rfl, rfl⟩, ?_⟩
  exact (itemSizes.beside.trans crateSizes.beside).trans (beside_replaceAddress address)

theorem RequestForm.applyTo_tariffCode {form : RequestForm} {item item' : LineItem} {s s' : Store}
    (h : form.applyTo item s = .ok (item', s')) : item'.tariffCode = item.tariffCode := by
  obtain ⟨_, _, _, _, _, _, _, _, rfl⟩ := applyTo_parts h
  rfl

theorem LineItem.Refilled.isInvoiced {old item : LineItem} (refilled : old.Refilled item) :
    item.isInvoiced = old.isInvoiced := congrArg Option.isSome refilled.invoiceId

theorem LineItem.ensureMutable_eq_ok {item : LineItem} (h : item.ensureMutable = .ok ()) :
    item.isInvoiced = false := by
  unfold ensureMutable at h
  split at h
  · contradiction
  · next opened => exact Bool.eq_false_iff.2 opened

/-- Of the approved items only an actual-cost item with an estimate may be changed. -/
theorem LineItem.actualCost_of_ensureMutable {item : LineItem} (h : item.ensureMutable = .ok ())
    (approved : item.status = .approved) :
    item.tariffCode = actualCostCode ∧ item.estimateAmount.isSome := by
  unfold ensureMutable at h
  split at h
  · contradiction
  · split at h
    · contradiction
    · next unfrozen =>
      have opened : item.isOpenActualCost := by
        by_contra frozen
        exact unfrozen ⟨approved, frozen⟩
      rw [isOpenActualCost, Bool.and_eq_true, Bool.and_eq_true] at opened
      exact ⟨of_decide_eq_true opened.1.1, opened.1.2⟩

theorem LineItem.ensureDeletable_eq_ok {item : LineItem} (h : item.ensureDeletable = .ok ()) :
    item.isInvoiced = false := by
  unfold ensureDeletable at h
  split at h
  · contradiction
  · next opened => exact Bool.eq_false_iff.2 opened

theorem LineItem.apply_eq_ok {item item' : LineItem} {action : LineItemAction} {now : Timestamp}
    (h : item.apply action now = .ok item') :
    ∃ status, item.status.transition action item.tariffCode = .ok status ∧
      item' = { item with status, approvedDate := some (item.approvedDate.getD now) } := by
  obtain ⟨status, moved, h⟩ := bind_eq_ok.1 h
  exact ⟨status, moved, (Except.ok.inj h).symm⟩

theorem LineItem.approval_eq_conditionallyApprove {item : LineItem} :
    item.approval = .conditionallyApprove ↔ item.tariffCode = actualCostCode ∧
      item.estimateAmount.isSome ∧ item.actualAmount = none := by
  unfold approval
  split
  · next estimated =>
    obtain ⟨actualCost, estimated, missing⟩ := estimated
    exact iff_of_true rfl
      ⟨of_decide_eq_true actualCost, estimated, Option.isNone_iff_eq_none.1 missing⟩
  · next other =>
    refine iff_of_false nofun fun ⟨actualCost, estimated, missing⟩ => other ?_
    exact ⟨decide_eq_true actualCost, estimated, Option.isNone_iff_eq_none.2 missing⟩

/-- The status that the action leads to. -/
def LineItemAction.target : LineItemAction → LineItemStatus
  | approve => .approved
  | conditionallyApprove => .conditionallyApproved

/-- From any status but `submitted` only the actual-cost code moves on, to the status of the
action. -/
theorem LineItemStatus.transition_eq_ok {status status' : LineItemStatus}
    {action : LineItemAction} {code : String} :
    status.transition action code = .ok status' ↔
      status' = action.target ∧ status ≠ action.target ∧
        (status = .submitted ∨ code = actualCostCode) := by
  by_cases actualCost : code = actualCostCode <;> cases status <;> cases action <;>
    simp [transition, transition.refuse, LineItemAction.target, actualCost, eq_comm]

theorem LineItemStatus.isPriceable_of_transition {status status' : LineItemStatus}
    {action : LineItemAction} {code : String} (h : status.transition action code = .ok status') :
    status'.isPriceable := by
  rw [(transition_eq_ok.1 h).1]
  cases action <;> rfl

theorem LineItemStatus.isPriceable_iff {status : LineItemStatus} :
    status.isPriceable ↔ status = .conditionallyApproved ∨ status = .approved := decide_eq_true_iff

theorem LineItemStatus.eq_submitted_of_not_isPriceable {status : LineItemStatus}
    (waiting : ¬ status.isPriceable) : status = .submitted := by
  cases status with
  | submitted => rfl
  | conditionallyApproved | approved => exact absurd rfl waiting

theorem ShipmentStatus.isPriceable_iff {status : ShipmentStatus} :
    status.isPriceable ↔ status = .delivered ∨ status = .completed := decide_eq_true_iff

section Action
variable {item : LineItem} {tariff : TariffItem} {shipment : Shipment}

theorem pricingAction_ne_skip (h : pricingAction item tariff shipment ≠ .skip) :
    item.status.isPriceable ∧ shipment.status.isPriceable := by
  unfold pricingAction at h
  split at h
  · contradiction
  · next ready =>
    rw [not_or, not_or, not_not, not_not] at ready
    exact ready.2

theorem pricingAction_eq_skip (opened : item.isInvoiced = false)
    (h : pricingAction item tariff shipment = .skip) :
    ¬ (item.status.isPriceable ∧ shipment.status.isPriceable) := by
  intro ready
  unfold pricingAction at h
  rw [if_neg (by simp [opened, ready])] at h
  split at h <;> contradiction

end Action

namespace Calculator
variable {c : Calculator} {s : Store} {link : Except Error DiscountRate} {shipment : Shipment}
  {item new : LineItem}

theorem price_eq_ok (h : c.price item shipment s = .ok new) :
    ∃ discount charge, s.shipmentDiscount shipment = .ok discount ∧
      c.lineItemCharge item shipment discount = .ok charge ∧ new = item.setPrice charge := by
  obtain ⟨discount, linked, h⟩ := bind_eq_ok.1 h
  obtain ⟨charge, charged, h⟩ := bind_eq_ok.1 h
  exact ⟨discount, charge, linked, charged, (Except.ok.inj h).symm⟩

/-- What becomes of an item that is looked at for pricing, where `link` is the discount of
the shipment: it is priced when the time has come, cleared, or left alone because the time
has not come; then it may move between the approved statuses. -/
inductive Repriced (c : Calculator) (link : Except Error DiscountRate) (shipment : Shipment)
    (item : LineItem) : LineItem → Prop
  | priced {discount : DiscountRate} {charge : FeeAndRate} : item.status.isPriceable →
      shipment.status.isPriceable → link = .ok discount →
      c.lineItemCharge item shipment discount = .ok charge →
      Repriced c link shipment item (item.setPrice charge)
  | cleared : Repriced c link shipment item item.clearPrice
  | early : ¬ (item.status.isPriceable ∧ shipment.status.isPriceable) →
      Repriced c link shipment item item
  | moved {mid new : LineItem} {action : LineItemAction} {now : Timestamp} :
      Repriced c link shipment item mid → mid.apply action now = .ok new →
      Repriced c link shipment item new

theorem Repriced.eq (h : c.Repriced link shipment item new) :
    ∃ status approvedDate amount appliedRate,
      new = { item with status, approvedDate, amount, appliedRate } := by
  induction h with
  | priced => exact ⟨_, _, _, _, rfl⟩
  | cleared => exact ⟨_, _, _, _, rfl⟩
  | early => exact ⟨_, _, _, _, rfl⟩
  | moved _ h ih =>
    obtain ⟨_, _, _, _, rfl⟩ := ih
    obtain ⟨_, _, rfl⟩ := LineItem.apply_eq_ok h
    exact ⟨_, _, _, _, rfl⟩

theorem repriced_price (approved : item.status.isPriceable)
    (delivered : shipment.status.isPriceable) (h : c.price item shipment s = .ok new) :
    c.Repriced (s.shipmentDiscount shipment) shipment item new := by
  obtain ⟨discount, charge, linked, charged, rfl⟩ := price_eq_ok h
  exact .priced approved delivered linked charged

theorem repriced_applyTrigger {tariff : TariffItem} (opened : item.isInvoiced = false)
    (h : c.applyTrigger item tariff shipment s = .ok new) :
    c.Repriced (s.shipmentDiscount shipment) shipment item new := by
  unfold applyTrigger at h
  cases action : pricingAction item tariff shipment with
  | price =>
    obtain ⟨approved, delivered⟩ := pricingAction_ne_skip (by rw [action]; nofun)
    rw [action] at h
    exact repriced_price approved delivered h
  | clear =>
    rw [action] at h
    exact Except.ok.inj h ▸ .cleared
  | skip =>
    rw [action] at h
    exact Except.ok.inj h ▸ .early (pricingAction_eq_skip opened action)

theorem applyTrigger_eq {tariff : TariffItem}
    (h : c.applyTrigger item tariff shipment s = .ok new) :
    ∃ amount appliedRate, new = { item with amount, appliedRate } := by
  unfold applyTrigger at h
  split at h
  · obtain ⟨_, _, _, _, rfl⟩ := price_eq_ok h
    exact ⟨_, _, rfl⟩
  · obtain rfl := Except.ok.inj h
    exact ⟨_, _, rfl⟩
  · obtain rfl := Except.ok.inj h
    exact ⟨_, _, rfl⟩

theorem applyTrigger_status {tariff : TariffItem}
    (h : c.applyTrigger item tariff shipment s = .ok new) : new.status = item.status := by
  obtain ⟨_, _, rfl⟩ := applyTrigger_eq h
  rfl

theorem Repriced.mayMove {mid : LineItem} {action : LineItemAction} {now : Timestamp} {p : Prop}
    [Decidable p] (repriced : c.Repriced link shipment item mid)
    (h : (if p then mid.apply action now else .ok mid) = .ok new) :
    c.Repriced link shipment item new := by
  split at h
  · exact repriced.moved h
  · exact Except.ok.inj h ▸ repriced

theorem repriced_settleActualCost {now : Timestamp} (approved : item.status.isPriceable)
    (h : c.settleActualCost item shipment s now = .ok new) :
    c.Repriced (s.shipmentDiscount shipment) shipment item new := by
  have early (waiting : ¬ shipment.status.isPriceable) :
      c.Repriced (s.shipmentDiscount shipment) shipment item item :=
    .early fun ready => waiting ready.2
  unfold settleActualCost at h
  split at h
  · split at h
    · next delivered =>
      obtain ⟨mid, priced, h⟩ := bind_eq_ok.1 h
      exact (repriced_price approved delivered priced).mayMove h
    · next waiting => exact (early waiting).mayMove h
  · split at h
    · exact Repriced.cleared.mayMove h
    · next waiting => exact (early waiting).mayMove h

theorem repriced_reprice {tariff : TariffItem} {now : Timestamp} (opened : item.isInvoiced = false)
    (h : c.reprice item tariff shipment s now = .ok new) :
    c.Repriced (s.shipmentDiscount shipment) shipment item new := by
  unfold reprice at h
  split at h
  · next actualCost => exact repriced_settleActualCost actualCost.2 h
  · exact repriced_applyTrigger opened h

/-- An update of the price changes the price and the approval only. -/
theorem reprice_eq {tariff : TariffItem} {now : Timestamp}
    (h : c.reprice item tariff shipment s now = .ok new) :
    ∃ status approvedDate amount appliedRate,
      new = { item with status, approvedDate, amount, appliedRate } := by
  unfold reprice at h
  split at h
  · next actualCost => exact (repriced_settleActualCost actualCost.2 h).eq
  · obtain ⟨amount, appliedRate, rfl⟩ := applyTrigger_eq h
    exact ⟨_, _, amount, appliedRate, rfl⟩

variable {s' : Store} {now : Timestamp} {form : RequestForm}

theorem createRequest_iff {id : LineItemId} {shipmentId : ShipmentId} :
    c.createRequest id now shipmentId form s = .ok (new, s') ↔
      ∃ tariff shipment side, c.preApprovalItem form.tariffCode = .ok tariff ∧
        s.shipments.get? shipmentId = some shipment ∧
        form.applyTo (.submitted id shipmentId form.tariffCode form.location now) s =
          .ok (new, side) ∧
        s' = side.saveLineItem new := by
  simp only [createRequest, bind_eq_ok, Store.loadShipment_eq_ok, pure, Except.pure,
    Except.ok.injEq, Prod.mk.injEq, Prod.exists]
  constructor
  · rintro ⟨tariff, offered, shipment, stored, item, side, applied, rfl, rfl⟩
    exact ⟨tariff, shipment, side, offered, stored, applied, rfl⟩
  · rintro ⟨tariff, shipment, side, offered, stored, applied, rfl⟩
    exact ⟨tariff, offered, shipment, stored, new, side, applied, rfl, rfl⟩

theorem updateLineItem_iff {id : LineItemId} :
    c.updateLineItem now id form s = .ok (new, s') ↔
      ∃ old shipment tariff filled side, s.lineItems.get? id = some old ∧
        s.shipments.get? old.shipmentId = some shipment ∧ old.ensureMutable = .ok () ∧
        form.ensureBaseline old s = .ok () ∧ c.preApprovalItem form.tariffCode = .ok tariff ∧
        form.applyTo { old with tariffCode := form.tariffCode } s = .ok (filled, side) ∧
        c.reprice filled tariff shipment side now = .ok new ∧ s' = side.saveLineItem new := by
  simp only [updateLineItem, bind_eq_ok, Store.loadShipment_eq_ok, Store.loadLineItem_eq_ok, pure,
    Except.pure, Except.ok.injEq, Prod.mk.injEq, Prod.exists]
  constructor
  · rintro ⟨old, stored, shipment, owner, ⟨⟩, mutable_, ⟨⟩, kept, tariff, offered, filled, side,
      applied, item, repriced, rfl, rfl⟩
    exact ⟨old, shipment, tariff, filled, side, stored, owner, mutable_, kept, offered, applied,
      repriced, rfl⟩
  · rintro ⟨old, shipment, tariff, filled, side, stored, owner, mutable_, kept, offered, applied,
      repriced, rfl⟩
    exact ⟨old, stored, shipment, owner, (), mutable_, (), kept, tariff, offered, filled, side,
      applied, new, repriced, rfl, rfl⟩

theorem approveLineItem_iff {id : LineItemId} :
    c.approveLineItem now id s = .ok (new, s') ↔
      ∃ old tariff shipment approved, s.lineItems.get? id = some old ∧
        c.preApprovalItem old.tariffCode = .ok tariff ∧
        s.shipments.get? old.shipmentId = some shipment ∧
        old.apply old.approval now = .ok approved ∧
        c.priceApproved approved shipment s = .ok new ∧ s' = s.saveLineItem new := by
  simp only [approveLineItem, bind_eq_ok, Store.loadShipment_eq_ok, Store.loadLineItem_eq_ok, pure,
    Except.pure, Except.ok.injEq, Prod.mk.injEq]
  constructor
  · rintro ⟨old, stored, tariff, offered, shipment, owner, approved, moved, item, priced, rfl,
      rfl⟩
    exact ⟨old, tariff, shipment, approved, stored, offered, owner, moved, priced, rfl⟩
  · rintro ⟨old, tariff, shipment, approved, stored, offered, owner, moved, priced, rfl⟩
    exact ⟨old, stored, tariff, offered, shipment, owner, approved, moved, new, priced, rfl, rfl⟩

theorem createRequest_get? {id : LineItemId} {shipmentId : ShipmentId}
    (h : c.createRequest id now shipmentId form s = .ok (new, s')) :
    s'.lineItems.get? id = some new := by
  obtain ⟨_, _, side, _, _, applied, rfl⟩ := createRequest_iff.1 h
  exact Store.get?_saveLineItem (RequestForm.applyTo_eq_ok applied).1.id

theorem createRequest_eq_ok {id : LineItemId} {shipmentId : ShipmentId}
    (h : c.createRequest id now shipmentId form s = .ok (new, s')) :
    ∃ side, s.Beside side ∧ s' = side.saveLineItem new ∧
      (LineItem.submitted id shipmentId form.tariffCode form.location now).Refilled new := by
  obtain ⟨_, _, side, _, _, applied, rfl⟩ := createRequest_iff.1 h
  obtain ⟨refilled, beside⟩ := RequestForm.applyTo_eq_ok applied
  exact ⟨side, beside, rfl, refilled⟩

theorem updateLineItem_eq_ok {id : LineItemId}
    (h : c.updateLineItem now id form s = .ok (new, s')) :
    ∃ old shipment filled side, s.lineItems.get? id = some old ∧
      s.shipments.get? old.shipmentId = some shipment ∧ old.isInvoiced = false ∧
      old.Refilled filled ∧ s.Beside side ∧
      c.Repriced (side.shipmentDiscount shipment) shipment filled new ∧
      s' = side.saveLineItem new := by
  obtain ⟨old, shipment, tariff, filled, side, stored, owner, mutable_, _, _, applied, repriced,
    rfl⟩ := updateLineItem_iff.1 h
  obtain ⟨refilled, beside⟩ := RequestForm.applyTo_eq_ok applied
  have opened : old.isInvoiced = false := LineItem.ensureMutable_eq_ok mutable_
  refine ⟨old, shipment, filled, side, stored, owner, opened, ?_, beside,
    repriced_reprice (refilled.isInvoiced.trans opened) repriced, rfl⟩
  exact ⟨refilled.id, refilled.shipmentId, refilled.status, refilled.invoiceId, refilled.amount,
    refilled.appliedRate⟩

theorem updateLineItem_get? {id : LineItemId} (filed : s.Filed)
    (h : c.updateLineItem now id form s = .ok (new, s')) : s'.lineItems.get? id = some new := by
  obtain ⟨old, _, filled, side, stored, _, _, refilled, _, repriced, rfl⟩ :=
    updateLineItem_eq_ok h
  obtain ⟨_, _, _, _, rfl⟩ := repriced.eq
  have sameId : filled.id = id := refilled.id.trans (filed.lineItems stored)
  exact Store.get?_saveLineItem sameId

/-- Approval looks neither at the invoice nor at a price that the item has. -/
theorem approveLineItem_eq_ok {id : LineItemId}
    (h : c.approveLineItem now id s = .ok (new, s')) :
    ∃ old shipment approved, s.lineItems.get? id = some old ∧
      s.shipments.get? old.shipmentId = some shipment ∧
      old.apply old.approval now = .ok approved ∧
      new.status = approved.status ∧
      (new = approved ∨ c.Repriced (s.shipmentDiscount shipment) shipment approved new) ∧
      s' = s.saveLineItem new := by
  obtain ⟨old, _, shipment, approved, stored, _, owner, moved, priced, rfl⟩ :=
    approveLineItem_iff.1 h
  unfold priceApproved at priced
  split at priced
  · next ready =>
    have approved_ : approved.status.isPriceable := LineItemStatus.isPriceable_iff.2 (.inr ready.2)
    obtain ⟨_, charge, _, _, same⟩ := price_eq_ok priced
    refine ⟨old, shipment, approved, stored, owner, moved, ?_, ?_, rfl⟩
    · rw [same]
      rfl
    · exact .inr (repriced_price approved_ ready.1 priced)
  · obtain rfl := Except.ok.inj priced
    exact ⟨old, shipment, _, stored, owner, moved, rfl, .inl rfl, rfl⟩

/-- An approval changes status, date and price only. -/
theorem approveLineItem_saves {id : LineItemId}
    (h : c.approveLineItem now id s = .ok (new, s')) :
    ∃ old status approvedDate amount appliedRate, s.lineItems.get? id = some old ∧
      new = { old with status, approvedDate, amount, appliedRate } ∧ s' = s.saveLineItem new := by
  obtain ⟨old, _, approved, stored, _, moved, _, priced, rfl⟩ := approveLineItem_eq_ok h
  obtain ⟨status, _, rfl⟩ := LineItem.apply_eq_ok moved
  rcases priced with rfl | repriced
  · exact ⟨old, status, _, old.amount, old.appliedRate, stored, rfl, rfl⟩
  · obtain ⟨status, _, _, _, rfl⟩ := repriced.eq
    exact ⟨old, status, _, _, _, stored, rfl, rfl⟩

theorem deleteLineItem_eq_ok {id : LineItemId} {item : LineItem}
    (h : c.deleteLineItem id s = .ok (item, s')) :
    s.lineItems.get? id = some item ∧ item.isInvoiced = false ∧
      Store.Beside { s with lineItems := s.lineItems.erase item.id } s' := by
  obtain ⟨old, stored, h⟩ := bind_eq_ok.1 h
  obtain ⟨_, deletable, h⟩ := bind_eq_ok.1 h
  obtain ⟨_, _, h⟩ := bind_eq_ok.1 h
  obtain ⟨s₁, erased, h⟩ := bind_eq_ok.1 h
  obtain ⟨rfl, rfl⟩ := Prod.mk.inj (Except.ok.inj h)
  obtain ⟨-, rfl⟩ := Store.deleteLineItem_eq_ok.1 (ofStore_eq_ok.1 erased)
  refine ⟨Store.loadLineItem_eq_ok.1 stored, LineItem.ensureDeletable_eq_ok deletable, ?_⟩
  have erased : Store.Beside _ (old.ownedDimensions.foldl
      (fun s id => { s with dimensions := s.dimensions.erase id })
      { s with lineItems := s.lineItems.erase old.id }) :=
    Store.beside_foldl fun s id => Store.beside_eraseDimensions id
  refine erased.trans ?_
  cases old.addressId with
  | none => exact .refl _
  | some id => exact Store.beside_eraseAddress id

end Calculator
end Haulage
