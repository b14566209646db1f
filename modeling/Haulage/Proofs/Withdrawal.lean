import Haulage.Proofs.Measurements

/-! A request leaves nothing behind. Whatever is done to it, all that the store has gained by
it are the item and the records that the item refers to at the time, and a deletion takes just
these away again. -/
namespace Haulage

namespace SortedMap
variable {κ α : Type} [Ord κ] [DecidableEq κ]

theorem get?_foldl_erase (m : SortedMap κ α) (ks : List κ) (k : κ) :
    (ks.foldl erase m).get? k = if k ∈ ks then none else m.get? k := by
  induction ks generalizing m with
  | nil => simp
  | cons k' rest ih =>
    rw [List.foldl_cons, ih, get?_erase]
    by_cases later : k ∈ rest
    · simp [later]
    · simp [later]

/-- Tables that hold nothing under the keys in which they may differ are the same. -/
theorem AgreeOutside.eq [Std.TransOrd κ] [Std.LawfulEqOrd κ] {keys : Set κ} {m n : SortedMap κ α}
    (agree : m.AgreeOutside keys n) (before : ∀ k ∈ keys, m.get? k = none)
    (after : ∀ k ∈ keys, n.get? k = none) : n = m := by
  apply ext_get?
  intro k
  by_cases within : k ∈ keys
  · rw [before k within, after k within]
  · exact agree k within

end SortedMap

/-- The item with its measurements and its address. -/
def LineItem.belongings (item : LineItem) : Footprint where
  lineItems := {item.id}
  dimensions := {d | d ∈ item.ownedDimensions}
  addresses := {a | item.addressId = some a}

/-- The measurements and the address that the form brings have ids that nothing is stored
under. -/
structure RequestForm.BringsNew (form : RequestForm) (s : Store) : Prop where
  itemDimensions : ∀ d ∈ form.itemDimensions, s.dimensions.get? d.id = none
  crateDimensions : ∀ d ∈ form.crateDimensions, s.dimensions.get? d.id = none
  address : ∀ a ∈ form.address, s.addresses.get? a.id = none

instance (form : RequestForm) (s : Store) : Decidable (form.BringsNew s) :=
  decidable_of_iff ((∀ d ∈ form.itemDimensions, s.dimensions.get? d.id = none) ∧
      (∀ d ∈ form.crateDimensions, s.dimensions.get? d.id = none) ∧
      ∀ a ∈ form.address, s.addresses.get? a.id = none)
    ⟨fun ⟨items, crates, address⟩ => ⟨items, crates, address⟩,
      fun new => ⟨new.itemDimensions, new.crateDimensions, new.address⟩⟩

namespace Store
variable {s s₁ s₂ : Store} {f : Footprint} {item : LineItem}

/-- The store has no record of the footprint. -/
structure Lacks (s : Store) (f : Footprint) : Prop where
  shipments : ∀ id ∈ f.shipments, s.shipments.get? id = none
  lineItems : ∀ id ∈ f.lineItems, s.lineItems.get? id = none
  dimensions : ∀ id ∈ f.dimensions, s.dimensions.get? id = none
  addresses : ∀ id ∈ f.addresses, s.addresses.get? id = none
  sits : ∀ id ∈ f.sits, s.sits.get? id = none

/-- What comes and goes again leaves the store as it was. -/
theorem ChangesOnly.eq_of_lacks (changes : s.ChangesOnly f s₁) (before : s.Lacks f)
    (after : s₁.Lacks f) : s₁ = s := by
  have shipments := changes.shipments.eq before.shipments after.shipments
  have lineItems := changes.lineItems.eq before.lineItems after.lineItems
  have dimensions := changes.dimensions.eq before.dimensions after.dimensions
  have addresses := changes.addresses.eq before.addresses after.addresses
  have sits := changes.sits.eq before.sits after.sits
  obtain ⟨carriers, performances, groupings, groupingIndex⟩ := changes.toSameCarriers
  cases s
  cases s₁
  simp_all only

/-- The store without the item and its belongings, which are erased one after the other. -/
def without (s : Store) (item : LineItem) : Store :=
  let s := item.ownedDimensions.foldl (fun s id => { s with dimensions := s.dimensions.erase id })
    { s with lineItems := s.lineItems.erase item.id }
  item.addressId.elim s fun id => { s with addresses := s.addresses.erase id }

theorem without_eq (s : Store) (item : LineItem) :
    s.without item = { s with
      lineItems := s.lineItems.erase item.id
      dimensions := item.ownedDimensions.foldl SortedMap.erase s.dimensions
      addresses := item.addressId.elim s.addresses s.addresses.erase } := by
  have sizes (s : Store) (ids : List DimensionsId) :
      ids.foldl (fun s id => { s with dimensions := s.dimensions.erase id }) s =
        { s with dimensions := ids.foldl SortedMap.erase s.dimensions } := by
    induction ids generalizing s with
    | nil => rfl
    | cons id rest ih => exact ih _
  rw [without, sizes]
  cases item.addressId <;> rfl

theorem changesOnly_without : s.ChangesOnly item.belongings (s.without item) := by
  rw [without_eq]
  constructor
  case toSameCarriers => exact ⟨rfl, rfl, rfl, rfl⟩
  case shipments => exact .refl _
  case lineItems => exact .erase rfl
  case dimensions =>
    intro d unowned
    exact (SortedMap.get?_foldl_erase ..).trans (if_neg unowned)
  case addresses =>
    cases address : item.addressId with
    | none => exact .refl _
    | some a => exact .erase address
  case sits => exact .refl _

theorem lacks_without : (s.without item).Lacks item.belongings := by
  rw [without_eq]
  constructor
  case shipments => nofun
  case lineItems =>
    intro key same
    exact (SortedMap.get?_erase ..).trans (if_pos same)
  case dimensions =>
    intro d owned
    exact (SortedMap.get?_foldl_erase ..).trans (if_pos owned)
  case addresses =>
    intro a owned
    have address : item.addressId = some a := owned
    simp [address, SortedMap.get?_erase]
  case sits => nofun

/-- All that `s₁` has beyond `s` are records of the footprint, of which `s` has none. -/
structure Gains (s : Store) (f : Footprint) (s₁ : Store) : Prop where
  changes : s.ChangesOnly f s₁
  lacks : s.Lacks f

theorem Gains.without (gains : s.Gains item.belongings s₁) : s₁.without item = s :=
  (gains.changes.trans changesOnly_without).eq_of_lacks gains.lacks lacks_without

theorem Gains.saveLineItem {x : LineItem} (gains : s.Gains f s₁) (mem : x.id ∈ f.lineItems) :
    s.Gains f (s₁.saveLineItem x) :=
  ⟨gains.changes.trans (changesOnly_saveLineItem mem), gains.lacks⟩

end Store

namespace RequestForm
variable {form : RequestForm} {item item' : LineItem} {s s₁ s₂ : Store}

/-- Measurements that a slot had, and no longer has, are gone; what is not there and does not
come into the slot stays away. -/
theorem Replaces.get?_eq_none {existing id : Option DimensionsId}
    {replacement : Option Dimensions} {d : DimensionsId}
    (replaces : Replaces s existing replacement id s₁)
    (before : existing = some d ∨ s.dimensions.get? d = none) (after : id ≠ some d) :
    s₁.dimensions.get? d = none := by
  cases replaces with
  | written _ sizes =>
    have other : d ≠ existing.getD sizes.id := fun same => after (congrArg some same.symm)
    rw [Store.saveDimensions, SortedMap.get?_insert, if_neg other]
    refine before.resolve_left fun held => other ?_
    rw [held, Option.getD_some]
  | erased =>
    rw [SortedMap.get?_erase]
    split
    · rfl
    · next other => exact before.resolve_left fun held => other (Option.some.inj held).symm
  | absent => exact before.resolve_left nofun

theorem replaceAddress_id {existing id : Option AddressId} {replacement : Option Address}
    (h : replaceAddress existing replacement s = .ok (id, s₁)) :
    id = replacement.map fun a => existing.getD a.id := by
  unfold replaceAddress at h
  split at h
  · exact (Prod.mk.inj (Except.ok.inj h)).1.symm
  · obtain ⟨_, _, h⟩ := bind_eq_ok.1 h
    exact (Prod.mk.inj (Except.ok.inj h)).1.symm
  · exact (Prod.mk.inj (Except.ok.inj h)).1.symm

/-- An address that the item had, and no longer has, is gone. -/
theorem replaceAddress_get?_eq_none {id : Option AddressId} {replacement : Option Address}
    {a : AddressId} (h : replaceAddress (some a) replacement s = .ok (id, s₁))
    (after : id ≠ some a) : s₁.addresses.get? a = none := by
  cases replacement with
  | some address =>
    obtain ⟨rfl, -⟩ := Prod.mk.inj (Except.ok.inj h)
    exact absurd rfl after
  | none =>
    obtain ⟨_, erased, h⟩ := bind_eq_ok.1 h
    obtain ⟨-, rfl⟩ := Store.deleteAddress_eq_ok.1 (ofStore_eq_ok.1 erased)
    obtain ⟨-, rfl⟩ := Prod.mk.inj (Except.ok.inj h)
    rw [SortedMap.get?_erase, if_pos rfl]

/-- An id that comes into a slot from outside is one that is brought. -/
theorem brought_of_slot {α β : Type} {existing : Option β} {brought : Option α} {key : α → β}
    {b : β} (now : (brought.map fun x => existing.getD (key x)) = some b)
    (before : existing ≠ some b) : ∃ x ∈ brought, key x = b := by
  obtain ⟨x, supplied, same⟩ := Option.map_eq_some_iff.1 now
  cases existing with
  | none => exact ⟨x, supplied, same⟩
  | some id => exact absurd (congrArg some same) before

variable (h : form.applyTo item s₁ = .ok (item', s₂))
include h

theorem BringsNew.dimensions (new : form.BringsNew s₁) {d : DimensionsId}
    (unowned : d ∉ item.ownedDimensions) (owned : d ∈ item'.ownedDimensions) :
    s₁.dimensions.get? d = none := by
  rw [LineItem.mem_ownedDimensions, not_or] at unowned
  obtain ⟨_, _, _, _, _, itemSizes, crateSizes, _, rfl⟩ := applyTo_parts h
  rcases LineItem.mem_ownedDimensions.1 owned with held | held
  · obtain ⟨x, supplied, rfl⟩ := brought_of_slot (itemSizes.id_eq.symm.trans held) unowned.1
    exact new.itemDimensions x supplied
  · obtain ⟨x, supplied, rfl⟩ := brought_of_slot (crateSizes.id_eq.symm.trans held) unowned.2
    exact new.crateDimensions x supplied

theorem BringsNew.addresses (new : form.BringsNew s₁) {a : AddressId}
    (unowned : item.addressId ≠ some a) (owned : item'.addressId = some a) :
    s₁.addresses.get? a = none := by
  obtain ⟨_, _, _, _, _, _, _, address, rfl⟩ := applyTo_parts h
  obtain ⟨x, supplied, rfl⟩ := brought_of_slot ((replaceAddress_id address).symm.trans owned) unowned
  exact new.address x supplied

/-- Measurements that the item had, and no longer has, are gone. -/
theorem applyTo_dimensions_dropped {d : DimensionsId} (owned : d ∈ item.ownedDimensions)
    (unowned : d ∉ item'.ownedDimensions) : s₂.dimensions.get? d = none := by
  rw [LineItem.mem_ownedDimensions, not_or] at unowned
  obtain ⟨_, _, _, side, side', itemSizes, crateSizes, address, rfl⟩ := applyTo_parts h
  have gone : side'.dimensions.get? d = none := by
    rcases LineItem.mem_ownedDimensions.1 owned with held | held
    · exact crateSizes.get?_eq_none (.inr (itemSizes.get?_eq_none (.inl held) unowned.1)) unowned.2
    · exact crateSizes.get?_eq_none (.inl held) unowned.2
  have apart : side'.ChangesOnly { addresses := Set.univ } s₂ :=
    changesOnly_replaceAddress (fun _ _ => trivial) (fun _ _ => trivial) address
  exact (apart.dimensions d nofun).trans gone

theorem applyTo_addresses_dropped {a : AddressId} (owned : item.addressId = some a)
    (unowned : item'.addressId ≠ some a) : s₂.addresses.get? a = none := by
  obtain ⟨_, _, _, _, _, _, _, address, rfl⟩ := applyTo_parts h
  have held : replaceAddress (some a) form.address _ = .ok _ := owned ▸ address
  exact replaceAddress_get?_eq_none held unowned

theorem lacks_applyTo (gains : s.Gains item.belongings s₁) (new : form.BringsNew s₁) :
    s.Lacks item'.belongings where
  shipments := nofun
  lineItems key same := gains.lacks.lineItems key (same.trans (applyTo_eq_ok h).1.id)
  dimensions d owned := by
    by_cases before : d ∈ item.ownedDimensions
    · exact gains.lacks.dimensions d before
    · exact (gains.changes.dimensions d before).symm.trans (new.dimensions h before owned)
  addresses a owned := by
    by_cases before : item.addressId = some a
    · exact gains.lacks.addresses a before
    · exact (gains.changes.addresses a before).symm.trans (new.addresses h before owned)
  sits := nofun

/-- Filling in a form keeps it so that all that the store has gained belongs to the item. -/
theorem gains_applyTo (gains : s.Gains item.belongings s₁) (new : form.BringsNew s₁) :
    s.Gains item'.belongings s₂ := by
  have changes : s₁.ChangesOnly
      { dimensions := {d | d ∈ item.ownedDimensions ∨ d ∈ item'.ownedDimensions}
        addresses := {a | item.addressId = some a ∨ item'.addressId = some a} } s₂ :=
    changesOnly_applyTo ⟨fun _ => .inl, fun _ => .inl⟩ ⟨fun _ => .inr, fun _ => .inr⟩ h
  have sameId : item'.id = item.id := (applyTo_eq_ok h).1.id
  refine ⟨?_, lacks_applyTo h gains new⟩
  constructor
  case toSameCarriers => exact gains.changes.toSameCarriers.trans changes.toSameCarriers
  case shipments => exact gains.changes.shipments.trans changes.shipments
  case lineItems =>
    intro key other
    have before : key ∉ item.belongings.lineItems := fun same => other (same.trans sameId.symm)
    exact (changes.lineItems key nofun).trans (gains.changes.lineItems key before)
  case dimensions =>
    intro d unowned
    by_cases before : d ∈ item.ownedDimensions
    · exact (applyTo_dimensions_dropped h before unowned).trans
        (gains.lacks.dimensions d before).symm
    · exact (changes.dimensions d fun either => either.elim before unowned).trans
        (gains.changes.dimensions d before)
  case addresses =>
    intro a unowned
    by_cases before : item.addressId = some a
    · exact (applyTo_addresses_dropped h before unowned).trans (gains.lacks.addresses a before).symm
    · exact (changes.addresses a fun either => either.elim before unowned).trans
        (gains.changes.addresses a before)
  case sits => exact gains.changes.sits.trans changes.sits

end RequestForm

/-- Since `s` the store has gained this request, which is open to a deletion. -/
structure Calculator.Pending (c : Calculator) (s : Store) (item : LineItem) (s₁ : Store) : Prop where
  stored : s₁.lineItems.get? item.id = some item
  gains : s.Gains item.belongings s₁
  opened : item.isInvoiced = false
  offered : ∃ tariff, c.preApprovalItem item.tariffCode = .ok tariff

namespace Calculator
variable {c : Calculator} {now : Timestamp} {id : LineItemId} {form : RequestForm}
  {item new : LineItem} {s s₁ s₂ : Store}

theorem deleteLineItem_iff :
    c.deleteLineItem id s = .ok (item, s₁) ↔
      s.lineItems.get? id = some item ∧ item.ensureDeletable = .ok () ∧
        (∃ tariff, c.preApprovalItem item.tariffCode = .ok tariff) ∧
        (s.lineItems.get? item.id).isSome ∧ s₁ = s.without item := by
  simp only [deleteLineItem, bind_eq_ok, Store.loadLineItem_eq_ok, ofStore_eq_ok,
    Store.deleteLineItem_eq_ok, pure, Except.pure, Except.ok.injEq, Prod.mk.injEq]
  constructor
  · rintro ⟨old, stored, ⟨⟩, deletable, tariff, offered, _, ⟨present, rfl⟩, rfl, rfl⟩
    exact ⟨stored, deletable, ⟨tariff, offered⟩, present, rfl⟩
  · rintro ⟨stored, deletable, ⟨tariff, offered⟩, present, rfl⟩
    exact ⟨item, stored, (), deletable, tariff, offered, _, ⟨present, rfl⟩, rfl, rfl⟩

theorem Pending.delete (pending : c.Pending s item s₁) :
    c.deleteLineItem item.id s₁ = .ok (item, s) := by
  have deletable : item.ensureDeletable = .ok () := by
    rw [LineItem.ensureDeletable, if_neg (by simp [pending.opened])]
  rw [deleteLineItem_iff]
  refine ⟨pending.stored, deletable, pending.offered, ?_, pending.gains.without.symm⟩
  rw [pending.stored, Option.isSome_some]

/-- A request that is saved after its form was filled in belongs to the item. -/
theorem Pending.create {shipmentId : ShipmentId} (fresh : s.lineItems.get? id = none)
    (brings : form.BringsNew s) (h : c.createRequest id now shipmentId form s = .ok (new, s₁)) :
    c.Pending s new s₁ ∧ new.id = id := by
  obtain ⟨tariff, _, side, offered, _, applied, rfl⟩ := createRequest_iff.1 h
  have refilled := (RequestForm.applyTo_eq_ok applied).1
  have bare : s.Gains
      (LineItem.submitted id shipmentId form.tariffCode form.location now).belongings s :=
    ⟨.refl s, ⟨nofun, fun key same => same ▸ fresh, nofun, nofun, nofun⟩⟩
  refine ⟨⟨Store.get?_saveLineItem rfl, ?_, refilled.isInvoiced, tariff, ?_⟩, refilled.id⟩
  · exact (RequestForm.gains_applyTo applied bare brings).saveLineItem rfl
  · rw [RequestForm.applyTo_tariffCode applied]
    exact offered

theorem Pending.update (pending : c.Pending s item s₁) (brings : form.BringsNew s₁)
    (h : c.updateLineItem now item.id form s₁ = .ok (new, s₂)) :
    c.Pending s new s₂ ∧ new.id = item.id := by
  obtain ⟨old, _, tariff, filled, side, stored, _, _, _, offered, applied, repriced, rfl⟩ :=
    updateLineItem_iff.1 h
  obtain rfl := Option.some.inj (pending.stored.symm.trans stored)
  obtain ⟨_, _, _, _, rfl⟩ := reprice_eq repriced
  have refilled := (RequestForm.applyTo_eq_ok applied).1
  have gains : s.Gains filled.belongings side :=
    RequestForm.gains_applyTo applied pending.gains brings
  refine ⟨⟨Store.get?_saveLineItem rfl, gains.saveLineItem rfl, ?_, tariff, ?_⟩, refilled.id⟩
  · exact refilled.isInvoiced.trans pending.opened
  · show c.preApprovalItem filled.tariffCode = .ok tariff
    rw [RequestForm.applyTo_tariffCode applied]
    exact offered

theorem Pending.approve (pending : c.Pending s item s₁)
    (h : c.approveLineItem now item.id s₁ = .ok (new, s₂)) :
    c.Pending s new s₂ ∧ new.id = item.id := by
  obtain ⟨old, _, _, _, _, stored, rfl, rfl⟩ := approveLineItem_saves h
  obtain rfl := Option.some.inj (pending.stored.symm.trans stored)
  exact ⟨⟨Store.get?_saveLineItem rfl, pending.gains.saveLineItem rfl, pending.opened,
    pending.offered⟩, rfl⟩

end Calculator

/-- An update or approval of the request `id`, whose form brings new records. -/
def Operation.Amends (id : LineItemId) (s : Store) : Operation → Prop
  | updateLineItem _ id' form => id' = id ∧ form.BringsNew s
  | approveLineItem _ id' => id' = id
  | createRequest .. | deleteLineItem _ | sit _ | recalculate .. | deliverAndPrice .. => False

namespace Services
variable {v : Services} {id : LineItemId} {s s₁ : Store} {op : Operation}

theorem pending_commit {item : LineItem} (pending : v.calculator.Pending s item s₁)
    (amends : op.Amends item.id s₁) :
    ∃ new, new.id = item.id ∧ v.calculator.Pending s new (v.commit s₁ op) := by
  refine commit_of_run (P := fun s₂ => ∃ new, new.id = item.id ∧ v.calculator.Pending s new s₂)
    ⟨item, rfl, pending⟩ fun s₂ h => ?_
  cases op with
  | updateLineItem now id form =>
    obtain ⟨rfl, brings⟩ := amends
    obtain ⟨⟨new, _⟩, updated, rfl⟩ := map_eq_ok.1 h
    obtain ⟨pending, sameId⟩ := pending.update brings updated
    exact ⟨new, sameId, pending⟩
  | approveLineItem now id =>
    obtain rfl : id = item.id := amends
    obtain ⟨⟨new, _⟩, approved, rfl⟩ := map_eq_ok.1 h
    obtain ⟨pending, sameId⟩ := pending.approve approved
    exact ⟨new, sameId, pending⟩
  | createRequest | deleteLineItem | sit | recalculate | deliverAndPrice => contradiction

theorem pending_commitAll {item : LineItem} {ops : List Operation}
    (pending : v.calculator.Pending s item s₁)
    (amends : Along (fun _ s op => op.Amends item.id s) s₁ (ops.map (v, ·))) :
    ∃ new, new.id = item.id ∧
      v.calculator.Pending s new (commitAll s₁ (ops.map (v, ·))) := by
  induction ops generalizing s₁ item with
  | nil => exact ⟨item, rfl, pending⟩
  | cons op rest ih =>
    obtain ⟨here, later⟩ := amends
    obtain ⟨next, sameId, pending⟩ := pending_commit pending here
    obtain ⟨new, sameId', pending⟩ := ih pending (sameId ▸ later)
    exact ⟨new, sameId'.trans sameId, pending⟩

/-- A request that was made for a shipment and then updated and approved any number of times can
be deleted, and what remains is the store before it was made. -/
theorem deleteLineItem_of_amended {now : Timestamp} {shipmentId : ShipmentId} {form : RequestForm}
    {ops : List Operation} (fresh : s.lineItems.get? id = none) (brings : form.BringsNew s)
    (created : v.run s (.createRequest id now shipmentId form) = .ok s₁)
    (amends : Along (fun _ s op => op.Amends id s) s₁ (ops.map (v, ·))) :
    v.run (commitAll s₁ (ops.map (v, ·))) (.deleteLineItem id) = .ok s := by
  obtain ⟨⟨item, _⟩, made, rfl⟩ := map_eq_ok.1 created
  obtain ⟨pending, rfl⟩ := Calculator.Pending.create fresh brings made
  obtain ⟨last, sameId, pending⟩ := pending_commitAll pending amends
  rw [← sameId]
  exact map_eq_ok.2 ⟨(last, s), pending.delete, rfl⟩

/-- Measurements are dropped, taken up again under their old id and joined by others, the
address goes, and the request is approved and priced. -/
theorem deleteLineItem_of_amended_sample :
    let sizes (n : Nat) : Dimensions := ⟨Sample.id n, ⟨5⟩, ⟨6⟩, ⟨7⟩⟩
    let form : RequestForm := { tariffCode := "105B", location := .origin }
    let create : Operation := .createRequest (Sample.id 4) Sample.time (Sample.id 1)
      { form with
        itemDimensions := some (sizes 1), address := some { Sample.address with id := Sample.id 2 } }
    let ops : List Operation := [
      .updateLineItem Sample.time (Sample.id 4) { form with crateDimensions := some (sizes 2) },
      .updateLineItem Sample.time (Sample.id 4)
        { form with
          quantity1 := .ofUnits 2
          itemDimensions := some (sizes 1), crateDimensions := some (sizes 3) },
      .approveLineItem Sample.time (Sample.id 4)]
    let amended := commitAll (Sample.services.commit Sample.linked create)
      (ops.map (Sample.services, ·))
    (amended.lineItems.get? (Sample.id 4)).map (fun item => (item.status, item.amount.isSome)) =
        some (.approved, true) ∧
      amended.dimensions.keys = [Sample.id 1, Sample.id 2] ∧
      Sample.services.run amended (.deleteLineItem (Sample.id 4)) = .ok Sample.linked := by
  intro sizes form create ops amended
  have created : Sample.services.run Sample.linked create =
      .ok (Sample.services.commit Sample.linked create) := run_eq_commit (by decide +kernel)
  have amends : Along (fun _ s op => op.Amends (Sample.id 4) s)
      (Sample.services.commit Sample.linked create) (ops.map (Sample.services, ·)) :=
    ⟨⟨rfl, by decide +kernel⟩, ⟨rfl, by decide +kernel⟩, rfl, trivial⟩
  exact ⟨by decide +kernel, by decide +kernel,
    deleteLineItem_of_amended (by decide +kernel) (by decide +kernel) created amends⟩

end Services
end Haulage
