import Haulage.Proofs.ActualCost
import Haulage.Proofs.Footprint

/-! An update repeated finds nothing to do. What the form asks for is in place after the first
time, in the item and in the records that go with it, and the status and the price that follow
from it depend on neither of the two. -/
namespace Haulage

namespace RequestForm

/-- A slot that has what is asked of it, under its own id. -/
inductive InPlace (s : Store) : Option DimensionsId → Option Dimensions → Prop
  | written {id : DimensionsId} {d : Dimensions} : s.dimensions.get? id = some { d with id } →
      InPlace s (some id) (some d)
  | absent : InPlace s none none

/-- The ids that a slot can come to have. -/
def slotIds (existing : Option DimensionsId) (replacement : Option Dimensions) :
    List DimensionsId :=
  existing.toList ++ (replacement.map (·.id)).toList

/-- Measurements of the item and those of its crate do not come under one id. -/
def SlotsApart (form : RequestForm) (item : LineItem) : Prop :=
  (slotIds item.itemDimensionsId form.itemDimensions).Disjoint
    (slotIds item.crateDimensionsId form.crateDimensions)

variable {form : RequestForm} {item item' : LineItem} {s s' : Store}
  {existing id : Option DimensionsId} {replacement : Option Dimensions}

theorem Replaces.inPlace (replaces : Replaces s existing replacement id s') :
    InPlace s' id replacement := by
  cases replaces with
  | written => exact .written ((SortedMap.get?_insert ..).trans (if_pos rfl))
  | erased => exact .absent
  | absent => exact .absent

theorem Replaces.mem_slotIds (replaces : Replaces s existing replacement id s')
    {d : DimensionsId} (has : id = some d) : d ∈ slotIds existing replacement := by
  cases replaces with
  | written existing new =>
    obtain rfl := Option.some.inj has
    cases existing <;> simp [slotIds]
  | erased => contradiction
  | absent => contradiction

theorem Replaces.get?_of_not_mem (replaces : Replaces s existing replacement id s')
    {d : DimensionsId} (other : d ∉ slotIds existing replacement) :
    s'.dimensions.get? d = s.dimensions.get? d := by
  have changes : s.ChangesOnly { dimensions := {d | d ∈ slotIds existing replacement} } s' :=
    replaces.changesOnly (fun d has => by simp [slotIds, has]) fun d has => replaces.mem_slotIds has
  exact changes.dimensions d other

theorem InPlace.congr (inPlace : InPlace s id replacement)
    (same : ∀ d, id = some d → s'.dimensions.get? d = s.dimensions.get? d) :
    InPlace s' id replacement := by
  cases inPlace with
  | written found => exact .written ((same _ rfl).trans found)
  | absent => exact .absent

theorem InPlace.replaceDimensions (inPlace : InPlace s id replacement) :
    replaceDimensions id replacement s = .ok (id, s) := by
  cases inPlace with
  | written found =>
    simp only [RequestForm.replaceDimensions, Option.getD_some, Store.saveDimensions]
    rw [SortedMap.insert_of_get? found]
  | absent => rfl

theorem InPlace.sameDimensions (inPlace : InPlace s id replacement) :
    sameDimensions (id.bind s.dimensions.get?) replacement := by
  cases inPlace with
  | written found => simp [RequestForm.sameDimensions, found, Dimensions.sameSize]
  | absent => rfl

/-- Where the addresses are those that a replacement left, the next one leaves them too. -/
theorem replaceAddress_replaced {existing id : Option AddressId} {replacement : Option Address}
    {side : Store} (same : side.addresses = s'.addresses)
    (h : replaceAddress existing replacement s = .ok (id, s')) :
    replaceAddress id replacement side = .ok (id, side) := by
  unfold replaceAddress at h
  split at h
  · next address =>
    obtain ⟨rfl, rfl⟩ := Prod.mk.inj (Except.ok.inj h)
    have found : side.addresses.get? (existing.getD address.id) =
        some { address with id := existing.getD address.id } := by
      rw [same]
      exact (SortedMap.get?_insert ..).trans (if_pos rfl)
    simp only [replaceAddress, Option.getD_some, Store.saveAddress]
    rw [SortedMap.insert_of_get? found]
  · obtain ⟨_, _, h⟩ := bind_eq_ok.1 h
    obtain ⟨rfl, -⟩ := Prod.mk.inj (Except.ok.inj h)
    rfl
  · obtain ⟨rfl, -⟩ := Prod.mk.inj (Except.ok.inj h)
    rfl

/-- The item has the entries of the form, and its records are those of the form. -/
structure Done (form : RequestForm) (item : LineItem) (s : Store) : Prop where
  tariffCode : item.tariffCode = form.tariffCode
  entries : form.fill item = item
  valid : (form.validate.append item.validate).check = .ok ()
  itemDimensions : InPlace s item.itemDimensionsId form.itemDimensions
  crateDimensions : InPlace s item.crateDimensionsId form.crateDimensions
  address : replaceAddress item.addressId form.address s = .ok (item.addressId, s)

theorem Done.applyTo (done : form.Done item s) : form.applyTo item s = .ok (item, s) := by
  simp only [RequestForm.applyTo, done.entries, done.valid, done.itemDimensions.replaceDimensions,
    done.crateDimensions.replaceDimensions, done.address, ok_bind]
  rfl

theorem Done.ensureBaseline (done : form.Done item s) : form.ensureBaseline item s = .ok () := by
  have location : form.location = item.location := congrArg LineItem.location done.entries
  have quantity1 : form.quantity1 = item.quantity1 := congrArg LineItem.quantity1 done.entries
  have quantity2 : form.quantity2 = item.quantity2 := congrArg LineItem.quantity2 done.entries
  have unchanged : form.baselineChanges item s = [] := by
    simp [baselineChanges, done.tariffCode, location, quantity1, quantity2,
      done.itemDimensions.sameDimensions, done.crateDimensions.sameDimensions]
  simp [RequestForm.ensureBaseline, unchanged]

theorem done_of_applyTo (apart : form.SlotsApart item) (code : item.tariffCode = form.tariffCode)
    (h : form.applyTo item s = .ok (item', s')) : form.Done item' s' := by
  have valid : (form.validate.append (form.fill item).validate).check = .ok () := by
    obtain ⟨_, valid, _⟩ := bind_eq_ok.1 h
    exact valid
  obtain ⟨_, _, _, s₁, s₂, itemSizes, crateSizes, address, rfl⟩ := applyTo_parts h
  have beside : s₂.ChangesOnly { addresses := Set.univ } s' :=
    changesOnly_replaceAddress (fun _ _ => trivial) (fun _ _ => trivial) address
  have kept (d : DimensionsId) : s'.dimensions.get? d = s₂.dimensions.get? d :=
    beside.dimensions d nofun
  constructor
  case tariffCode => exact code
  case entries => rfl
  case valid => exact valid
  case itemDimensions =>
    -- The crate's measurements are written after those of the item, under another id.
    refine itemSizes.inPlace.congr fun d has => (kept d).trans ?_
    exact crateSizes.get?_of_not_mem (apart (itemSizes.mem_slotIds has))
  case crateDimensions => exact crateSizes.inPlace.congr fun d _ => kept d
  case address => exact replaceAddress_replaced rfl address

/-- A new status and a new price leave the form done. -/
theorem Done.saveLineItem (done : form.Done item s) (new : LineItem)
    (same : ∃ status approvedDate amount appliedRate,
      new = { item with status, approvedDate, amount, appliedRate }) :
    form.Done new (s.saveLineItem new) := by
  obtain ⟨status, approvedDate, amount, appliedRate, rfl⟩ := same
  have addresses (x : LineItem) : (s.saveLineItem x).addresses = s.addresses := rfl
  constructor
  case tariffCode => exact done.tariffCode
  case entries =>
    exact congrArg (fun x : LineItem => { x with status, approvedDate, amount, appliedRate })
      done.entries
  case valid => exact done.valid
  case itemDimensions => exact done.itemDimensions.congr fun _ _ => rfl
  case crateDimensions => exact done.crateDimensions.congr fun _ _ => rfl
  case address => exact replaceAddress_replaced (addresses _) done.address

end RequestForm

theorem LineItem.eq_of_mayMove {item new : LineItem} {action : LineItemAction} {now : Timestamp}
    {p : Prop} [Decidable p] (h : (if p then item.apply action now else .ok item) = .ok new) :
    ∃ status approvedDate, new = { item with status, approvedDate } := by
  split at h
  · obtain ⟨status, _, rfl⟩ := apply_eq_ok h
    exact ⟨status, _, rfl⟩
  · obtain rfl := Except.ok.inj h
    exact ⟨_, _, rfl⟩

namespace Calculator
variable {c : Calculator} {item new : LineItem} {tariff : TariffItem} {shipment : Shipment}
  {s s' : Store} {now now' : Timestamp}

section Fixed
variable (link : s'.shipmentDiscount shipment = s.shipmentDiscount shipment)
include link

/-- A charge depends neither on a price nor on a status. -/
theorem price_priced {status : LineItemStatus} {approvedDate : Option Timestamp}
    (h : c.price item shipment s = .ok new) :
    c.price { new with status, approvedDate } shipment s' =
      .ok { new with status, approvedDate } := by
  obtain ⟨discount, charge, linked, charged, rfl⟩ := price_eq_ok h
  have charged' : c.lineItemCharge { item.setPrice charge with status, approvedDate } shipment
      discount = .ok charge := charged
  rw [price, link, linked, ok_bind, charged', ok_bind]
  rfl

/-- Of an item that is settled neither the price nor the status moves any more. -/
theorem settleActualCost_settled (approved : item.status.isPriceable)
    (h : c.settleActualCost item shipment s now = .ok new) :
    c.settleActualCost new shipment s' now' = .ok new := by
  have status := settleActualCost_status approved h
  obtain ⟨_, _, _, _, same⟩ := (repriced_settleActualCost approved h).eq
  have actual : new.actualAmount = item.actualAmount := by rw [same]
  unfold settleActualCost at h
  split at h
  · next here =>
    rw [if_pos here] at status
    split at h
    · next delivered =>
      obtain ⟨mid, priced, h⟩ := bind_eq_ok.1 h
      obtain ⟨status', approvedDate, moved⟩ := LineItem.eq_of_mayMove h
      have again : c.price new shipment s' = .ok new := by
        rw [moved]
        exact price_priced link priced
      simp [settleActualCost, actual, here, delivered, again, ok_bind, status, pure, Except.pure]
    · next waiting =>
      simp [settleActualCost, actual, here, waiting, ok_bind, status, pure, Except.pure]
  · next missing =>
    rw [if_neg missing] at status
    obtain ⟨_, _, moved⟩ := LineItem.eq_of_mayMove h
    have cleared : (if shipment.status.isPriceable then new.clearPrice else new) = new := by
      rw [moved]
      split <;> rfl
    simp [settleActualCost, actual, missing, cleared, status, pure, Except.pure]

theorem applyTrigger_triggered (h : c.applyTrigger item tariff shipment s = .ok new) :
    c.applyTrigger new tariff shipment s' = .ok new := by
  have action : pricingAction new tariff shipment = pricingAction item tariff shipment := by
    obtain ⟨_, _, rfl⟩ := applyTrigger_eq h
    rfl
  unfold applyTrigger at h ⊢
  rw [action]
  split at h
  · exact price_priced link h
  · exact Except.ok.inj h ▸ rfl
  · exact Except.ok.inj h ▸ rfl

theorem reprice_repriced (h : c.reprice item tariff shipment s now = .ok new) :
    c.reprice new tariff shipment s' now' = .ok new := by
  obtain ⟨_, _, _, _, same⟩ := reprice_eq h
  have code : new.isActualCost = item.isActualCost := by rw [same, LineItem.isActualCost]; rfl
  unfold reprice at h
  split at h
  · next ready =>
    have approved : new.status.isPriceable := by
      rw [settleActualCost_status ready.2 h]
      split <;> rfl
    rw [reprice, if_pos ⟨code ▸ ready.1, approved⟩]
    exact settleActualCost_settled link ready.2 h
  · next other =>
    rw [reprice, code, applyTrigger_status h, if_neg other]
    exact applyTrigger_triggered link h

end Fixed

variable {id : LineItemId} {form : RequestForm} {item' : LineItem} {s'' : Store}

/-- All that a second update does is to see whether the item may still be changed. -/
theorem updateLineItem_updated (filed : s.Filed)
    (apart : ∀ old, s.lineItems.get? id = some old → form.SlotsApart old)
    (first : c.updateLineItem now id form s = .ok (item, s')) :
    c.updateLineItem now' id form s' = item.ensureMutable.map fun _ => (item, s') := by
  have found := Store.loadLineItem_eq_ok.2 (updateLineItem_get? filed first)
  obtain ⟨old, shipment, tariff, filled, side, stored, owner, _, _, offered, applied, repriced,
    rfl⟩ := updateLineItem_iff.1 first
  obtain ⟨refilled, beside⟩ := RequestForm.applyTo_eq_ok applied
  have same := reprice_eq repriced
  have apart : form.SlotsApart { old with tariffCode := form.tariffCode } := apart old stored
  have done : form.Done item (side.saveLineItem item) :=
    (RequestForm.done_of_applyTo apart rfl applied).saveLineItem item same
  have recoded : { item with tariffCode := form.tariffCode } = item := by rw [← done.tariffCode]
  have owner' : (side.saveLineItem item).loadShipment item.shipmentId = .ok shipment := by
    obtain ⟨_, _, _, _, rfl⟩ := same
    refine Store.loadShipment_eq_ok.2 ?_
    show side.shipments.get? filled.shipmentId = some shipment
    rw [beside.shipments, refilled.shipmentId]
    exact owner
  have repriced' : c.reprice item tariff shipment (side.saveLineItem item) now' = .ok item :=
    reprice_repriced rfl repriced
  have resaved : (side.saveLineItem item).saveLineItem item = side.saveLineItem item := by
    simp only [Store.saveLineItem, SortedMap.insert_insert]
  simp only [updateLineItem, found, owner', done.ensureBaseline, offered, recoded, done.applyTo,
    repriced', resaved, ok_bind]
  cases item.ensureMutable <;> rfl

/-- Updating twice is updating once. A second update with the same form, at any time, succeeds
exactly if the first has not closed the item to changes, and then gives the same item and leaves
the store as it is. -/
theorem updateLineItem_updated_iff (filed : s.Filed)
    (apart : ∀ old, s.lineItems.get? id = some old → form.SlotsApart old)
    (first : c.updateLineItem now id form s = .ok (item, s')) :
    c.updateLineItem now' id form s' = .ok (item', s'') ↔
      item.ensureMutable = .ok () ∧ item' = item ∧ s'' = s' := by
  rw [updateLineItem_updated filed apart first]
  cases item.ensureMutable <;> simp [Except.map, eq_comm]

/-- The actual amount of a conditionally approved service comes in, together with measurements
in the place of those that its crate had, and without its address. -/
theorem updateLineItem_updated_iff_sample :
    let sizes (n : Nat) : Dimensions := ⟨Sample.id n, ⟨5⟩, ⟨6⟩, ⟨7⟩⟩
    let start := ((Sample.linked.saveDimensions (sizes 1)).saveAddress
      { Sample.address with id := Sample.id 2 }).saveLineItem
        { Sample.estimate with
          status := .conditionallyApproved, approvedDate := some Sample.time
          crateDimensionsId := some (Sample.id 1), addressId := some (Sample.id 2) }
    let form : RequestForm := {
      tariffCode := "35A", location := .origin, estimateAmount := some ⟨5000⟩
      actualAmount := some ⟨7500⟩, itemDimensions := some (sizes 2) }
    let later : Timestamp := { Sample.time with date := Sample.day 19001 }
    ∃ item s', Sample.services.calculator.updateLineItem Sample.time (Sample.id 3) form start =
        .ok (item, s') ∧
      (item.status, item.amount) = (.approved, some ⟨7500⟩) ∧ s'.dimensions.keys = [Sample.id 2] ∧
      Sample.services.calculator.updateLineItem later (Sample.id 3) form s' = .ok (item, s') := by
  intro sizes start form later
  have filed : start.Filed :=
    (((Sample.filed_store.saveShipment _).saveDimensions _).saveAddress _).saveLineItem _
  have apart : ∀ old, start.lineItems.get? (Sample.id 3) = some old → form.SlotsApart old := by
    intro old stored
    obtain rfl := Option.some.inj ((Store.get?_saveLineItem rfl).symm.trans stored)
    exact List.disjoint_left.2 (by decide)
  have updated : (Sample.services.calculator.updateLineItem Sample.time (Sample.id 3) form
      start).toOption.any fun done =>
        decide ((done.1.status, done.1.amount) = (.approved, some ⟨7500⟩)) &&
        decide (done.2.dimensions.keys = [Sample.id 2]) &&
        decide (done.1.ensureMutable.toOption.isSome) := by
    decide +kernel
  simp only [Option.any_eq_true, Bool.and_eq_true, decide_eq_true_eq, Prod.exists] at updated
  obtain ⟨item, s', found, ⟨price, sizes'⟩, opened⟩ := updated
  have first := toOption_eq_some.1 found
  obtain ⟨⟨⟩, mutable_⟩ := Option.isSome_iff_exists.1 opened
  refine ⟨item, s', first, price, sizes', ?_⟩
  exact (updateLineItem_updated_iff filed apart first).2 ⟨toOption_eq_some.1 mutable_, rfl, rfl⟩

end Calculator
end Haulage
