import Haulage.Proofs.Operation
import Mathlib.Data.Set.Insert

/-! What an operation may change. Each has a footprint of records; it changes nothing
outside, and carriers, their performances and groupings are in none: a run makes a
grouping only where it then finds no carrier for it, and fails. -/
namespace Haulage

/-- Two tables that hold the same under every key outside of `keys`. -/
def SortedMap.AgreeOutside {κ α : Type} [Ord κ] [DecidableEq κ] (keys : Set κ)
    (m n : SortedMap κ α) : Prop :=
  ∀ k ∉ keys, n.get? k = m.get? k

namespace SortedMap.AgreeOutside
variable {κ α : Type} [Ord κ] [DecidableEq κ] {keys : Set κ} {m n l : SortedMap κ α} {k : κ}

theorem refl (m : SortedMap κ α) : AgreeOutside keys m m := fun _ _ => rfl

theorem trans (first : AgreeOutside keys m n) (second : AgreeOutside keys n l) :
    AgreeOutside keys m l :=
  fun k outside => (second k outside).trans (first k outside)

theorem erase (mem : k ∈ keys) : AgreeOutside keys m (m.erase k) := by
  intro k' outside
  rw [get?_erase, if_neg]
  rintro rfl
  exact outside mem

theorem insert [Std.TransOrd κ] [Std.LawfulEqOrd κ] {v : α} (mem : k ∈ keys) :
    AgreeOutside keys m (m.insert k v) := by
  intro k' outside
  rw [get?_insert, if_neg]
  rintro rfl
  exact outside mem

end SortedMap.AgreeOutside

/-- Ids of records, by table. -/
structure Footprint where
  shipments : Set ShipmentId := ∅
  lineItems : Set LineItemId := ∅
  dimensions : Set DimensionsId := ∅
  addresses : Set AddressId := ∅
  sits : Set SitId := ∅

namespace Store

/-- From `s` to `s'` no record outside of the footprint is added, changed or removed. -/
structure ChangesOnly (f : Footprint) (s s' : Store) : Prop extends SameCarriers s s' where
  shipments : s.shipments.AgreeOutside f.shipments s'.shipments
  lineItems : s.lineItems.AgreeOutside f.lineItems s'.lineItems
  dimensions : s.dimensions.AgreeOutside f.dimensions s'.dimensions
  addresses : s.addresses.AgreeOutside f.addresses s'.addresses
  sits : s.sits.AgreeOutside f.sits s'.sits

variable {f : Footprint} {s s' s'' : Store}

theorem ChangesOnly.refl (s : Store) : s.ChangesOnly f s where
  toSameCarriers := .refl s
  shipments := .refl _
  lineItems := .refl _
  dimensions := .refl _
  addresses := .refl _
  sits := .refl _

theorem ChangesOnly.trans (first : s.ChangesOnly f s') (second : s'.ChangesOnly f s'') :
    s.ChangesOnly f s'' where
  toSameCarriers := first.toSameCarriers.trans second.toSameCarriers
  shipments := first.shipments.trans second.shipments
  lineItems := first.lineItems.trans second.lineItems
  dimensions := first.dimensions.trans second.dimensions
  addresses := first.addresses.trans second.addresses
  sits := first.sits.trans second.sits

theorem changesOnly_saveLineItem {x : LineItem} (mem : x.id ∈ f.lineItems) :
    s.ChangesOnly f (s.saveLineItem x) :=
  { ChangesOnly.refl s with lineItems := .insert mem }

theorem changesOnly_saveDimensions {x : Dimensions} (mem : x.id ∈ f.dimensions) :
    s.ChangesOnly f (s.saveDimensions x) :=
  { ChangesOnly.refl s with dimensions := .insert mem }

theorem changesOnly_saveAddress {x : Address} (mem : x.id ∈ f.addresses) :
    s.ChangesOnly f (s.saveAddress x) :=
  { ChangesOnly.refl s with addresses := .insert mem }

theorem changesOnly_saveSit {x : Sit} (mem : x.id ∈ f.sits) : s.ChangesOnly f (s.saveSit x) :=
  { ChangesOnly.refl s with sits := .insert mem }

theorem changesOnly_eraseLineItem {id : LineItemId} (mem : id ∈ f.lineItems) :
    s.ChangesOnly f { s with lineItems := s.lineItems.erase id } :=
  { ChangesOnly.refl s with lineItems := .erase mem }

theorem changesOnly_eraseDimensions {id : DimensionsId} (mem : id ∈ f.dimensions) :
    s.ChangesOnly f { s with dimensions := s.dimensions.erase id } :=
  { ChangesOnly.refl s with dimensions := .erase mem }

theorem changesOnly_eraseAddress {id : AddressId} (mem : id ∈ f.addresses) :
    s.ChangesOnly f { s with addresses := s.addresses.erase id } :=
  { ChangesOnly.refl s with addresses := .erase mem }

theorem changesOnly_eraseSit {id : SitId} (mem : id ∈ f.sits) :
    s.ChangesOnly f { s with sits := s.sits.erase id } :=
  { ChangesOnly.refl s with sits := .erase mem }

theorem changesOnly_foldl {α : Type} {step : Store → α → Store} {xs : List α}
    (each : ∀ x ∈ xs, ∀ s : Store, s.ChangesOnly f (step s x)) :
    s.ChangesOnly f (xs.foldl step s) := by
  induction xs generalizing s with
  | nil => exact .refl s
  | cons x rest ih =>
    obtain ⟨here, each⟩ := List.forall_mem_cons.1 each
    exact (here s).trans (ih each)

end Store

/-- The footprint has the measurements and the address that go with the item. -/
structure LineItem.OwnsWithin (item : LineItem) (f : Footprint) : Prop where
  dimensions : ∀ id ∈ item.ownedDimensions, id ∈ f.dimensions
  address : ∀ id, item.addressId = some id → id ∈ f.addresses

theorem LineItem.mem_ownedDimensions {item : LineItem} {id : DimensionsId} :
    id ∈ item.ownedDimensions ↔
      item.itemDimensionsId = some id ∨ item.crateDimensionsId = some id := by
  simp [ownedDimensions]

namespace RequestForm
variable {form : RequestForm} {item item' : LineItem} {f : Footprint} {s s' : Store}

theorem Replaces.changesOnly {existing id : Option DimensionsId}
    {replacement : Option Dimensions} (replaces : Replaces s existing replacement id s')
    (before : ∀ d, existing = some d → d ∈ f.dimensions)
    (after : ∀ d, id = some d → d ∈ f.dimensions) : s.ChangesOnly f s' := by
  cases replaces with
  | written => exact Store.changesOnly_saveDimensions (after _ rfl)
  | erased => exact Store.changesOnly_eraseDimensions (before _ rfl)
  | absent => exact .refl s

theorem changesOnly_replaceAddress {existing id : Option AddressId} {replacement : Option Address}
    (before : ∀ a, existing = some a → a ∈ f.addresses)
    (after : ∀ a, id = some a → a ∈ f.addresses)
    (h : replaceAddress existing replacement s = .ok (id, s')) : s.ChangesOnly f s' := by
  unfold replaceAddress at h
  split at h
  · obtain ⟨rfl, rfl⟩ := Prod.mk.inj (Except.ok.inj h)
    exact Store.changesOnly_saveAddress (after _ rfl)
  · obtain ⟨s₁, erased, h⟩ := bind_eq_ok.1 h
    obtain ⟨-, rfl⟩ := Store.deleteAddress_eq_ok.1 (ofStore_eq_ok.1 erased)
    obtain ⟨-, rfl⟩ := Prod.mk.inj (Except.ok.inj h)
    exact Store.changesOnly_eraseAddress (before _ rfl)
  · obtain ⟨-, rfl⟩ := Prod.mk.inj (Except.ok.inj h)
    exact .refl s

/-- Filling in a form writes only what the item refers to before or after. -/
theorem changesOnly_applyTo (before : item.OwnsWithin f) (after : item'.OwnsWithin f)
    (h : form.applyTo item s = .ok (item', s')) : s.ChangesOnly f s' := by
  obtain ⟨_, _, _, s₁, s₂, itemSizes, crateSizes, address, rfl⟩ := applyTo_parts h
  have sizes : s.ChangesOnly f s₁ := itemSizes.changesOnly
    (fun d has => before.dimensions d (LineItem.mem_ownedDimensions.2 (.inl has)))
    (fun d has => after.dimensions d (LineItem.mem_ownedDimensions.2 (.inl has)))
  have crates : s₁.ChangesOnly f s₂ := crateSizes.changesOnly
    (fun d has => before.dimensions d (LineItem.mem_ownedDimensions.2 (.inr has)))
    (fun d has => after.dimensions d (LineItem.mem_ownedDimensions.2 (.inr has)))
  exact (sizes.trans crates).trans
    (changesOnly_replaceAddress before.address after.address address)

end RequestForm

namespace Store

/-- The measurements that the line item of an id refers to. -/
def dimensionsOf (s : Store) (id : LineItemId) : Set DimensionsId :=
  {d | ∃ item, s.lineItems.get? id = some item ∧ d ∈ item.ownedDimensions}

/-- The address that the line item of an id refers to. -/
def addressOf (s : Store) (id : LineItemId) : Set AddressId :=
  {a | ∃ item, s.lineItems.get? id = some item ∧ item.addressId = some a}

/-- The line items of `s'` that are the shipment's, and were before if they are not new. -/
def itemsKeptOf (s s' : Store) (id : ShipmentId) : Set LineItemId :=
  {key | (∃ item, s'.lineItems.get? key = some item ∧ item.shipmentId = id) ∧
    ∀ old, s.lineItems.get? key = some old → old.shipmentId = id}

/-- The SITs that leave storage with the shipment. -/
def leavingSits (s : Store) (id : ShipmentId) : Set SitId :=
  {key | ∃ sit, s.sits.get? key = some sit ∧ sit.shipmentId = id ∧
    sit.status = .inSit ∧ sit.location = .destination}

end Store

def SitOperation.footprint : SitOperation → Footprint
  | save sit address => { sits := {sit.id}, addresses := {address.id} }
  | remove id | approve id _ _ | deny id _ | placeIntoSit id _ | deliver id _ | release id _ =>
    { sits := {id} }

/-- What the operation may change where it leads from `s` to `s'`. -/
def Operation.footprint (s s' : Store) : Operation → Footprint
  | createRequest id _ _ _ | updateLineItem _ id _ => {
      lineItems := {id}
      dimensions := s.dimensionsOf id ∪ s'.dimensionsOf id
      addresses := s.addressOf id ∪ s'.addressOf id }
  | approveLineItem _ id => { lineItems := {id} }
  | deleteLineItem id => {
      lineItems := {id}, dimensions := s.dimensionsOf id, addresses := s.addressOf id }
  | sit operation => operation.footprint
  | recalculate _ _ id => { shipments := {id}, lineItems := s.itemsKeptOf s' id }
  | deliverAndPrice _ _ id _ => {
      shipments := {id}, lineItems := s.itemsKeptOf s' id, sits := s.leavingSits id }

/-- The id that the operation has at hand for a grouping is of use to no performance. -/
def Operation.GroupingFresh (s : Store) : Operation → Prop
  | recalculate ids _ _ | deliverAndPrice ids _ _ _ => s.UnusedGrouping ⟨ids 0⟩
  | createRequest .. | updateLineItem .. | approveLineItem .. | deleteLineItem .. | sit _ => True

namespace Calculator
variable {c : Calculator} {now : Timestamp} {id : LineItemId} {form : RequestForm} {f : Footprint}
  {s s' : Store} {new : LineItem}

theorem changesOnly_createRequest {shipmentId : ShipmentId} (here : id ∈ f.lineItems)
    (after : new.OwnsWithin f)
    (h : c.createRequest id now shipmentId form s = .ok (new, s')) : s.ChangesOnly f s' := by
  obtain ⟨_, _, side, _, _, applied, rfl⟩ := createRequest_iff.1 h
  have before : (LineItem.submitted id shipmentId form.tariffCode form.location now).OwnsWithin f :=
    ⟨nofun, nofun⟩
  have sameId : new.id = id := (RequestForm.applyTo_eq_ok applied).1.id
  exact (RequestForm.changesOnly_applyTo before after applied).trans
    (Store.changesOnly_saveLineItem (sameId ▸ here))

theorem changesOnly_updateLineItem (filed : s.Filed) (here : id ∈ f.lineItems)
    (before : ∀ old, s.lineItems.get? id = some old → old.OwnsWithin f) (after : new.OwnsWithin f)
    (h : c.updateLineItem now id form s = .ok (new, s')) : s.ChangesOnly f s' := by
  obtain ⟨old, _, _, filled, side, stored, _, _, _, _, applied, repriced, rfl⟩ :=
    updateLineItem_iff.1 h
  obtain ⟨_, _, _, _, rfl⟩ := reprice_eq repriced
  have sameId : filled.id = old.id := (RequestForm.applyTo_eq_ok applied).1.id
  have owns : LineItem.OwnsWithin { old with tariffCode := form.tariffCode } f :=
    ⟨(before old stored).dimensions, (before old stored).address⟩
  have owns' : filled.OwnsWithin f := ⟨after.dimensions, after.address⟩
  refine (RequestForm.changesOnly_applyTo owns owns' applied).trans
    (Store.changesOnly_saveLineItem ?_)
  show filled.id ∈ f.lineItems
  rwa [sameId, filed.lineItems stored]

theorem changesOnly_approveLineItem (filed : s.Filed) (here : id ∈ f.lineItems)
    (h : c.approveLineItem now id s = .ok (new, s')) : s.ChangesOnly f s' := by
  obtain ⟨old, _, _, _, _, stored, rfl, rfl⟩ := approveLineItem_saves h
  have sameId : old.id = id := filed.lineItems stored
  exact Store.changesOnly_saveLineItem (sameId ▸ here)

theorem changesOnly_deleteLineItem (filed : s.Filed) (here : id ∈ f.lineItems)
    (before : ∀ old, s.lineItems.get? id = some old → old.OwnsWithin f)
    (h : c.deleteLineItem id s = .ok (new, s')) : s.ChangesOnly f s' := by
  obtain ⟨old, stored, h⟩ := bind_eq_ok.1 h
  obtain ⟨_, _, h⟩ := bind_eq_ok.1 h
  obtain ⟨_, _, h⟩ := bind_eq_ok.1 h
  obtain ⟨s₁, erased, h⟩ := bind_eq_ok.1 h
  obtain ⟨rfl, rfl⟩ := Prod.mk.inj (Except.ok.inj h)
  obtain ⟨-, rfl⟩ := Store.deleteLineItem_eq_ok.1 (ofStore_eq_ok.1 erased)
  have stored := Store.loadLineItem_eq_ok.1 stored
  obtain rfl : old.id = id := filed.lineItems stored
  have owns := before old stored
  have sizes := Store.changesOnly_foldl (s := { s with lineItems := s.lineItems.erase old.id })
    fun d has s => Store.changesOnly_eraseDimensions (s := s) (owns.dimensions d has)
  refine ((Store.changesOnly_eraseLineItem here).trans sizes).trans ?_
  cases address : old.addressId with
  | none => exact .refl _
  | some a => exact Store.changesOnly_eraseAddress (owns.address a address)

end Calculator

theorem SitOperation.changesOnly {operation : SitOperation} {s s' : Store} {sit : Sit}
    (filed : s.Filed) (h : operation.run s = .ok (sit, s')) :
    s.ChangesOnly operation.footprint s' := by
  have changed {id : SitId} {action : Sit → Except Error Sit} {f : Footprint} (here : id ∈ f.sits)
      (moves : ∀ {old new}, action old = .ok new → old.Moves new)
      (h : s.changeSit id action = .ok (sit, s')) : s.ChangesOnly f s' := by
    obtain ⟨old, stored, moved, _, rfl⟩ := Store.changeSit_eq_ok.1 h
    refine Store.changesOnly_saveSit ?_
    rwa [(moves moved).continues.id, filed.sits stored]
  cases operation with
  | save new address =>
    obtain ⟨continues, _, _, rfl⟩ := Store.saveSitWithAddress_eq_ok h
    refine Store.ChangesOnly.trans (Store.changesOnly_saveAddress ?_)
      (Store.changesOnly_saveSit ?_)
    · exact Set.mem_singleton _
    · exact continues.id
  | remove id =>
    obtain ⟨stored, _, rfl⟩ := Store.removeSit_eq_ok h
    exact Store.changesOnly_eraseSit (filed.sits stored)
  | approve id start notes => exact changed rfl Sit.moves_approve h
  | deny id notes => exact changed rfl Sit.moves_deny h
  | placeIntoSit id start => exact changed rfl Sit.moves_placeIntoSit h
  | deliver id date => exact changed rfl Sit.moves_deliver h
  | release id date => exact changed rfl Sit.moves_release h

namespace Recalculator
variable {r : Recalculator} {ids : IdSupply} {now : Timestamp} {shipment : Shipment}
  {f : Footprint} {s s' : Store} {report : RecalculationReport}

/-- A run that succeeds has found its carrier, so it has made no grouping; its items are
those of the shipment and new ones. -/
theorem changesOnly_run (filed : s.Filed) (fresh : ids.FreshFor s shipment.id)
    (unused : s.UnusedGrouping ⟨ids 0⟩) (here : shipment.id ∈ f.shipments)
    (items : s.itemsKeptOf s' shipment.id ⊆ f.lineItems)
    (h : r.run ids now shipment s = .ok (report, s')) : s.ChangesOnly f s' := by
  obtain ⟨_, weight, _, _, miles, discount, linked, s₁, _, _, _, _, resolved, settled⟩ :=
    run_eq_ok.1 h
  obtain ⟨rfl, -⟩ : s₁ = s ∧ r.resolveDiscount ⟨ids 0⟩ shipment s = .ok (discount, linked, s) :=
    resolveDiscount_congr unused (.refl s) resolved
  have sameId : linked.id = shipment.id := resolveDiscount_id resolved
  rw [← sameId] at fresh here items
  have stored : _ = s' := congrArg Prod.snd settled
  have grows := r.refreshBasket_grows ids now linked weight miles s₁
  -- What is written under a key is an item of the shipment, and so is what stood there.
  have written : s₁.lineItems.AgreeOutside f.lineItems s'.lineItems := by
    intro key outside
    rw [← stored]
    refine settle_get?_of_forall_ne fun old mem opened same => outside (items ?_)
    subst same
    refine ⟨⟨_, stored ▸ settle_get?_of_mem (Basket.nodup_ids filed fresh) mem opened, ?_⟩, ?_⟩
    · rw [Calculator.settledItem, PricingOutcome.applyTo_shipmentId]
      exact grown_shipmentId filed grows mem
    · intro before found
      rcases grows.origin mem with ⟨first, memFirst, refreshed⟩ | ⟨id, memId, made⟩
      · obtain ⟨stood, owner⟩ := filed.mem_lineItemsOf.1 memFirst
        rw [refreshed.id_eq, stood] at found
        exact Option.some.inj found ▸ owner
      · rw [made.id_eq, Basket.get?_of_mem_created fresh memId] at found
        contradiction
  rw [settle_store] at stored
  subst stored
  exact { Store.ChangesOnly.refl s₁ with shipments := .insert here, lineItems := written }

/-- The SITs that leave with the shipment are all that a delivery changes beside the run. -/
theorem changesOnly_deliverAndPrice {id : ShipmentId} {date : Date} (filed : s.Filed)
    (fresh : ids.FreshFor s id) (unused : s.UnusedGrouping ⟨ids 0⟩) (here : id ∈ f.shipments)
    (items : s.itemsKeptOf s' id ⊆ f.lineItems) (sits : s.leavingSits id ⊆ f.sits)
    (h : r.deliverAndPrice ids now id date s = .ok (report, s')) : s.ChangesOnly f s' := by
  obtain ⟨old, shipment, delivered, stored, left, leaving, ran⟩ := deliverAndPrice_iff.1 h
  have sameId := filed.shipments stored
  obtain ⟨-, moved⟩ := Shipment.deliver_eq_ok left
  obtain rfl : shipment.id = id := by rw [moved, ← sameId]
  have beside : s.Beside (delivered.foldl Store.saveSit s) := beside_saveDelivered delivered
  have saved : s.ChangesOnly f (delivered.foldl Store.saveSit s) := by
    refine Store.changesOnly_foldl fun sit mem s' => Store.changesOnly_saveSit (sits ?_)
    obtain ⟨before, memBefore, status, location, moves, _⟩ := deliverSits_eq_ok leaving mem
    obtain ⟨found, owner⟩ := filed.mem_sitsOf.1 memBefore
    exact ⟨before, moves.continues.id ▸ found, owner, status, location⟩
  refine saved.trans (changesOnly_run (beside.filed filed) ?_ ?_ here ?_ ran)
  · exact fresh.congr (idDemand_saveDelivered filed leaving _) beside.lineItems
  · exact unused.congr beside.performances
  · rw [Store.itemsKeptOf, beside.lineItems]
    exact items

end Recalculator

namespace Services
variable {v : Services} {s s' : Store} {op : Operation}

theorem ownsWithin_request {id : LineItemId} {item : LineItem}
    (stored : s.lineItems.get? id = some item ∨ s'.lineItems.get? id = some item) :
    item.OwnsWithin {
      lineItems := {id}
      dimensions := s.dimensionsOf id ∪ s'.dimensionsOf id
      addresses := s.addressOf id ∪ s'.addressOf id } where
  dimensions _ owned := stored.imp (fun h => ⟨item, h, owned⟩) fun h => ⟨item, h, owned⟩
  address _ owned := stored.imp (fun h => ⟨item, h, owned⟩) fun h => ⟨item, h, owned⟩

theorem changesOnly_of_run (filed : s.Filed) (fresh : op.IdsFresh s)
    (unused : op.GroupingFresh s) (h : v.run s op = .ok s') :
    s.ChangesOnly (op.footprint s s') s' := by
  cases op with
  | createRequest id now shipmentId form =>
    obtain ⟨⟨item, _⟩, created, rfl⟩ := map_eq_ok.1 h
    exact Calculator.changesOnly_createRequest rfl
      (ownsWithin_request (.inr (Calculator.createRequest_get? created))) created
  | updateLineItem now id form =>
    obtain ⟨⟨item, _⟩, updated, rfl⟩ := map_eq_ok.1 h
    exact Calculator.changesOnly_updateLineItem filed rfl
      (fun old stored => ownsWithin_request (.inl stored))
      (ownsWithin_request (.inr (Calculator.updateLineItem_get? filed updated))) updated
  | approveLineItem now id =>
    obtain ⟨⟨item, _⟩, approved, rfl⟩ := map_eq_ok.1 h
    exact Calculator.changesOnly_approveLineItem filed rfl approved
  | deleteLineItem id =>
    obtain ⟨⟨item, _⟩, deleted, rfl⟩ := map_eq_ok.1 h
    refine Calculator.changesOnly_deleteLineItem filed rfl (fun old stored => ?_) deleted
    exact ⟨fun _ owned => ⟨old, stored, owned⟩, fun _ owned => ⟨old, stored, owned⟩⟩
  | sit operation =>
    obtain ⟨⟨sit, _⟩, changed, rfl⟩ := map_eq_ok.1 h
    exact SitOperation.changesOnly filed changed
  | recalculate ids now id =>
    obtain ⟨⟨report, _⟩, recalculated, rfl⟩ := map_eq_ok.1 h
    obtain ⟨shipment, stored, ran⟩ := Recalculator.recalculate_eq_ok.1 recalculated
    obtain rfl : shipment.id = id := filed.shipments stored
    exact Recalculator.changesOnly_run filed fresh unused rfl (Set.Subset.refl _) ran
  | deliverAndPrice ids now id date =>
    obtain ⟨⟨report, _⟩, delivered, rfl⟩ := map_eq_ok.1 h
    exact Recalculator.changesOnly_deliverAndPrice filed fresh unused rfl (Set.Subset.refl _)
      (Set.Subset.refl _) delivered

/-- Every operation is done as a whole or not at all, and changes nothing outside of its
footprint. -/
theorem commit_changesOnly (filed : s.Filed) (fresh : op.IdsFresh s)
    (unused : op.GroupingFresh s) :
    (∀ e, v.run s op = .error e → v.commit s op = s) ∧
      ∀ s', v.run s op = .ok s' → v.commit s op = s' ∧ s.ChangesOnly (op.footprint s s') s' := by
  refine ⟨fun e failed => commit_of_error failed, fun s' ran => ⟨commit_of_ok ran, ?_⟩⟩
  exact changesOnly_of_run filed fresh unused ran

/-- The shipment gets a carrier, and the carriers stay as they are. -/
theorem commit_changesOnly_sample :
    let op := .recalculate Sample.ids Sample.time (Sample.id 1)
    ∃ s', Sample.services.run Sample.store op = .ok s' ∧
      Sample.services.commit Sample.store op = s' ∧
      Sample.store.ChangesOnly (op.footprint Sample.store s') s' := by
  intro op
  have fresh : op.IdsFresh Sample.store := ⟨by decide +kernel, by decide +kernel⟩
  have unused : op.GroupingFresh Sample.store :=
    (by decide +kernel : Sample.store.UnusedGrouping ⟨Sample.ids 0⟩)
  have succeeds : (Sample.services.run Sample.store op).toOption.isSome := by decide +kernel
  obtain ⟨s', ran⟩ := Option.isSome_iff_exists.1 succeeds
  have ran := toOption_eq_some.1 ran
  exact ⟨s', ran, (commit_changesOnly Sample.filed_store fresh unused).2 s' ran⟩

end Services
end Haulage
