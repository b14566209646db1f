import Haulage.Proofs.Basket.Locality
import Haulage.Proofs.Operation

/-! Where the line items of a store come from. After an operation, an item stood there before
or is one that the operation has written: a new request, a request that was changed or
approved, an item that a recalculation has priced, or one that it has made. -/
namespace Haulage

def Operation.Recalculates : Operation → Prop
  | recalculate .. | deliverAndPrice .. => True
  | createRequest .. | updateLineItem .. | approveLineItem .. | deleteLineItem .. | sit _ => False

namespace Services

/-- The operation can write the item on the right in the place of the one before it, where
there is one. -/
inductive Writes (v : Services) (s : Store) : Operation → Option LineItem → LineItem → Prop
  | request {id : LineItemId} {now : Timestamp} {shipmentId : ShipmentId} {form : RequestForm}
      {item : LineItem} {side : Store} :
      form.applyTo (.submitted id shipmentId form.tariffCode form.location now) s =
        .ok (item, side) →
      Writes v s (.createRequest id now shipmentId form) none item
  | update {now : Timestamp} {id : LineItemId} {form : RequestForm} {old filled item : LineItem}
      {tariff : TariffItem} {shipment : Shipment} {side : Store} :
      s.lineItems.get? id = some old → old.ensureMutable = .ok () →
      form.ensureBaseline old s = .ok () →
      form.applyTo { old with tariffCode := form.tariffCode } s = .ok (filled, side) →
      v.calculator.reprice filled tariff shipment side now = .ok item →
      Writes v s (.updateLineItem now id form) (some old) item
  | approve {now : Timestamp} {id : LineItemId} {old approved : LineItem} {amount : Option Cents}
      {appliedRate : Option Millicents} : s.lineItems.get? id = some old →
      old.apply old.approval now = .ok approved →
      Writes v s (.approveLineItem now id) (some old) (approved.withPrice amount appliedRate)
  /-- A run looks only for some items, and draws up all others as they are. -/
  | price {op : Operation} {home : LineItemId} {old drawn : LineItem} {amount : Option Cents}
      {appliedRate : Option Millicents} : op.Recalculates → s.lineItems.get? home = some old →
      old.Requantified drawn →
      (v.recalculator.calculator.rates.looksFor old = false → drawn = old) →
      Writes v s op (some old) (drawn.withPrice amount appliedRate)
  /-- The id is of the run's supply, so that it is new to the store if the supply is. -/
  | make {op : Operation} {key : LineItemId} {shipmentId : ShipmentId} {now : Timestamp}
      {drawn : LineItem} {amount : Option Cents} {appliedRate : Option Millicents} :
      op.Recalculates → drawn.Made key shipmentId now →
      (s.Filed → op.IdsFresh s → s.lineItems.get? key = none) →
      Writes v s op none (drawn.withPrice amount appliedRate)

end Services

theorem Calculator.withPrice_of_priceApproved {c : Calculator} {item new : LineItem}
    {shipment : Shipment} {s : Store} (h : c.priceApproved item shipment s = .ok new) :
    ∃ amount appliedRate, new = item.withPrice amount appliedRate := by
  unfold priceApproved at h
  split at h
  · obtain ⟨_, charge, _, _, rfl⟩ := price_eq_ok h
    exact ⟨some charge.fee, some charge.rate, rfl⟩
  · obtain rfl := Except.ok.inj h
    exact ⟨item.amount, item.appliedRate, rfl⟩

theorem Store.saveLineItem_cases {s side : Store} {new item : LineItem} {key : LineItemId}
    (beside : s.Beside side) (stored : (side.saveLineItem new).lineItems.get? key = some item) :
    s.lineItems.get? key = some item ∨ item.id = key ∧ item = new := by
  rw [saveLineItem, SortedMap.get?_insert] at stored
  split at stored
  · next here =>
    obtain rfl := Option.some.inj stored
    exact .inr ⟨here.symm, rfl⟩
  · exact .inl (beside.lineItems ▸ stored)

namespace Services
variable {v : Services} {s s' : Store} {op : Operation} {key : LineItemId} {old item : LineItem}

theorem origin_of_recalculation {r : Recalculator} {ids : IdSupply} {now : Timestamp}
    {shipment : Shipment} {report : RecalculationReport} {side : Store} (same : v.recalculator = r)
    (recalculates : op.Recalculates) (beside : s.Beside side)
    (fresh : s.Filed → op.IdsFresh s → ids.FreshFor side shipment.id)
    (ran : r.run ids now shipment side = .ok (report, s'))
    (stored : s'.lineItems.get? key = some item) :
    s.lineItems.get? key = some item ∨ item.id = key ∧ ∃ before, v.Writes s op before item := by
  subst same
  obtain ⟨_, weight, _, _, miles, discount, linked, s₁, _, _, _, _, resolved, settled⟩ :=
    Recalculator.run_eq_ok.1 ran
  obtain rfl : _ = s' := congrArg Prod.snd settled
  have same : s₁.lineItems = s.lineItems :=
    (Recalculator.resolveDiscount_beside resolved).lineItems.trans beside.lineItems
  rcases Recalculator.settle_get?_cases stored with ⟨drawn, mem, _, here, rfl⟩ | ⟨before, _⟩
  · obtain ⟨amount, appliedRate, priced⟩ :=
      (v.recalculator.calculator.outcome linked discount drawn).applyTo_eq drawn
    rw [Calculator.settledItem, priced]
    refine .inr ⟨here, ?_⟩
    rcases Basket.refreshed_origin mem with ⟨old, memOld, changed, unsought⟩ | ⟨id, memId, made⟩
    · obtain ⟨⟨home, stood⟩, _⟩ := Store.of_mem_lineItemsOf memOld
      exact ⟨some old, .price recalculates (same ▸ stood) changed unsought⟩
    · refine ⟨none, .make recalculates made fun filed newIds => ?_⟩
      rw [← same]
      exact Basket.get?_of_mem_created ((fresh filed newIds).resolveDiscount resolved) memId
  · exact .inl (same ▸ before)

/-- An item of the store after an operation stood there before, or was written. -/
theorem origin_of_run (h : v.run s op = .ok s') (stored : s'.lineItems.get? key = some item) :
    s.lineItems.get? key = some item ∨ item.id = key ∧ ∃ before, v.Writes s op before item := by
  cases op with
  | createRequest id now shipmentId form =>
    obtain ⟨⟨new, _⟩, created, rfl⟩ := map_eq_ok.1 h
    obtain ⟨_, _, side, _, _, applied, rfl⟩ := Calculator.createRequest_iff.1 created
    have beside := (RequestForm.applyTo_eq_ok applied).2
    refine (Store.saveLineItem_cases beside stored).imp_right fun ⟨here, same⟩ => ?_
    exact ⟨here, none, same ▸ .request applied⟩
  | updateLineItem now id form =>
    obtain ⟨⟨new, _⟩, updated, rfl⟩ := map_eq_ok.1 h
    obtain ⟨old, _, _, filled, side, found, _, mutable_, kept, _, applied, repriced, rfl⟩ :=
      Calculator.updateLineItem_iff.1 updated
    have beside := (RequestForm.applyTo_eq_ok applied).2
    refine (Store.saveLineItem_cases beside stored).imp_right fun ⟨here, same⟩ => ?_
    exact ⟨here, some old, same ▸ .update found mutable_ kept applied repriced⟩
  | approveLineItem now id =>
    obtain ⟨⟨new, _⟩, done, rfl⟩ := map_eq_ok.1 h
    obtain ⟨old, _, shipment, approved, found, _, _, moved, priced, rfl⟩ :=
      Calculator.approveLineItem_iff.1 done
    obtain ⟨amount, appliedRate, rfl⟩ := Calculator.withPrice_of_priceApproved priced
    refine (Store.saveLineItem_cases (.refl s) stored).imp_right fun ⟨here, same⟩ => ?_
    exact ⟨here, some old, same ▸ .approve found moved⟩
  | deleteLineItem id =>
    obtain ⟨⟨gone, _⟩, deleted, rfl⟩ := map_eq_ok.1 h
    obtain ⟨_, _, beside⟩ := Calculator.deleteLineItem_eq_ok deleted
    rw [beside.lineItems, SortedMap.get?_erase] at stored
    split at stored
    · contradiction
    · exact .inl stored
  | sit operation =>
    obtain ⟨⟨sit, _⟩, changed, rfl⟩ := map_eq_ok.1 h
    exact .inl ((SitOperation.beside changed).lineItems ▸ stored)
  | recalculate ids now id =>
    obtain ⟨⟨report, _⟩, recalculated, rfl⟩ := map_eq_ok.1 h
    obtain ⟨shipment, found, ran⟩ := Recalculator.recalculate_eq_ok.1 recalculated
    refine origin_of_recalculation rfl trivial (.refl s) (fun filed fresh => ?_) ran stored
    obtain rfl : shipment.id = id := filed.shipments found
    exact fresh
  | deliverAndPrice ids now id date =>
    obtain ⟨⟨report, _⟩, delivered, rfl⟩ := map_eq_ok.1 h
    obtain ⟨before, shipment, side, found, left, beside, demand, ran⟩ :=
      Recalculator.deliverAndPrice_eq_ok delivered
    refine origin_of_recalculation rfl trivial beside (fun filed fresh => ?_) ran stored
    obtain ⟨-, rfl⟩ := Shipment.deliver_eq_ok left
    obtain rfl : before.id = id := filed.shipments found
    exact IdSupply.FreshFor.congr fresh (demand filed) beside.lineItems

theorem Writes.id_eq (writes : v.Writes s op (some old) item) : item.id = old.id := by
  cases writes with
  | update _ _ _ applied repriced =>
    obtain ⟨_, _, _, _, rfl⟩ := Calculator.reprice_eq repriced
    exact (RequestForm.applyTo_eq_ok applied).1.id
  | approve _ moved =>
    obtain ⟨_, _, rfl⟩ := LineItem.apply_eq_ok moved
    rfl
  | price _ _ changed _ => exact changed.id_eq

theorem Writes.exists_stored (writes : v.Writes s op (some old) item) :
    ∃ home, s.lineItems.get? home = some old := by
  cases writes with
  | update found => exact ⟨_, found⟩
  | approve found => exact ⟨_, found⟩
  | price _ found => exact ⟨_, found⟩

/-- In a filed store an item is written under the id that it had before. -/
theorem Writes.stored (writes : v.Writes s op (some old) item) (filed : s.Filed) :
    s.lineItems.get? item.id = some old := by
  obtain ⟨home, found⟩ := writes.exists_stored
  rwa [writes.id_eq, filed.lineItems found]

/-- A new item has a new id. -/
theorem Writes.unused (writes : v.Writes s op none item) (filed : s.Filed)
    (fresh : op.IdsFresh s) : s.lineItems.get? item.id = none := by
  cases writes with
  | request applied =>
    rw [(RequestForm.applyTo_eq_ok applied).1.id]
    exact fresh
  | make _ made unused =>
    have sameId := made.id_eq
    exact sameId ▸ unused filed fresh

/-- What becomes of an item that stays in the store. -/
theorem commit_successor (filed : s.Filed) (fresh : op.IdsFresh s)
    (stored : s.lineItems.get? key = some old)
    (found : (v.commit s op).lineItems.get? key = some item) :
    item = old ∨ v.Writes s op (some old) item := by
  have kept (found : s.lineItems.get? key = some item) : item = old :=
    Option.some.inj (found.symm.trans stored)
  revert found
  refine commit_of_run (P := fun s' => s'.lineItems.get? key = some item → _)
    (fun found => .inl (kept found)) fun s' h found => ?_
  rcases origin_of_run h found with stood | ⟨rfl, before, writes⟩
  · exact .inl (kept stood)
  · cases before with
    | none =>
      -- What is made comes under a new id, so it does not stand in the place of `old`.
      rw [writes.unused filed fresh] at stored
      contradiction
    | some old' =>
      rw [writes.stored filed] at stored
      exact .inr (Option.some.inj stored ▸ writes)

end Services

/-- `P` holds of every line item of the store. -/
def Store.EachItem (P : LineItem → Prop) (s : Store) : Prop :=
  ∀ ⦃key item⦄, s.lineItems.get? key = some item → P item

theorem Store.eachItem_of_forall {P : LineItem → Prop} {s : Store}
    (all : ∀ e ∈ s.lineItems.entries, P e.2) : s.EachItem P :=
  fun _ _ stored => all _ (SortedMap.get?_eq_some_iff.1 stored)

/-- What holds of every item is kept by an operation if it holds of what the operation writes. -/
theorem Services.eachItem_commit {P : LineItem → Prop} {v : Services} {s : Store}
    {op : Operation} (each : s.EachItem P)
    (written : ∀ ⦃before item⦄, v.Writes s op before item → (∀ old ∈ before, P old) → P item) :
    (v.commit s op).EachItem P := by
  refine commit_of_run each fun s' h key item stored => ?_
  rcases origin_of_run h stored with stood | ⟨_, before, writes⟩
  · exact each stood
  · refine written writes fun old inPlace => ?_
    obtain rfl : before = some old := inPlace
    obtain ⟨home, found⟩ := writes.exists_stored
    exact each found

end Haulage
