import Haulage.Proofs.Operation

/-! Invoiced line items. Every operation keeps them as they are, but for approval, which
does not look at the invoice: it moves an invoiced item to another status and may price
it again. -/
namespace Haulage

namespace Recalculator
variable {r : Recalculator} {ids : IdSupply} {now : Timestamp} {shipment : Shipment}
  {s s' : Store} {report : RecalculationReport} {id : LineItemId} {item : LineItem}

/-- A run writes no item that is invoiced, and its new items have new ids. -/
theorem run_get?_of_isInvoiced (filed : s.Filed) (fresh : ids.FreshFor s shipment.id)
    (stored : s.lineItems.get? id = some item) (invoiced : item.isInvoiced = true)
    (h : r.run ids now shipment s = .ok (report, s')) : s'.lineItems.get? id = some item := by
  obtain ⟨_, weight, _, _, miles, discount, linked, s₁, _, _, _, _, resolved, settled⟩ :=
    run_eq_ok.1 h
  obtain rfl : _ = s' := congrArg Prod.snd settled
  have beside := resolveDiscount_beside resolved
  have filed₁ : s₁.Filed := beside.filed filed
  have fresh₁ : ids.FreshFor s₁ linked.id := fresh.resolveDiscount resolved
  rw [← beside.lineItems] at stored
  rw [settle_get?_of_forall_ne, stored]
  intro old mem opened same
  rcases (r.refreshBasket_grows ids now linked weight miles s₁).origin mem with
    ⟨first, memFirst, refreshed⟩ | ⟨key, memKey, made⟩
  · have found := (filed₁.mem_lineItemsOf.1 memFirst).1
    rw [← refreshed.id_eq, same, stored] at found
    obtain rfl := Option.some.inj found
    rw [refreshed.isInvoiced_eq, invoiced] at opened
    contradiction
  · have unused := Basket.get?_of_mem_created fresh₁ memKey
    rw [← made.id_eq, same, stored] at unused
    contradiction

end Recalculator

namespace Services
variable {v : Services} {s s' : Store} {op : Operation} {id : LineItemId} {item : LineItem}

/-- An item saved under another id changes nothing for this one. -/
theorem get?_saveLineItem_of_ne {side : Store} {new : LineItem} (beside : s.Beside side)
    (stored : s.lineItems.get? id = some item) (other : id ≠ new.id) :
    (side.saveLineItem new).lineItems.get? id = some item := by
  rw [Store.saveLineItem, SortedMap.get?_insert, if_neg other, beside.lineItems, stored]

/-- What a step leaves of an invoiced item: all of it, or after an approval all but its
status, the date of approval and the price. -/
theorem Step.get?_of_isInvoiced (step : v.Step s op s') (filed : s.Filed) (fresh : op.IdsFresh s)
    (stored : s.lineItems.get? id = some item) (invoiced : item.isInvoiced = true) :
    (s'.lineItems.get? id = some item ∧ ∀ now, op ≠ .approveLineItem now id) ∨
      (∃ now, op = .approveLineItem now id) ∧
        ∃ status approvedDate amount appliedRate, status ≠ item.status ∧
          s'.lineItems.get? id = some { item with status, approvedDate, amount, appliedRate } := by
  have closed {old : LineItem} {key : LineItemId} (found : s.lineItems.get? key = some old)
      (opened : old.isInvoiced = false) : id ≠ key := by
    rintro rfl
    rw [stored] at found
    obtain rfl := Option.some.inj found
    rw [invoiced] at opened
    contradiction
  cases step with
  | create beside refilled =>
    refine .inl ⟨get?_saveLineItem_of_ne beside stored ?_, by rintro _ ⟨⟩⟩
    rw [refilled.id]
    rintro rfl
    have unused : s.lineItems.get? _ = none := fresh
    rw [stored] at unused
    contradiction
  | update found _ opened refilled beside repriced =>
    refine .inl ⟨get?_saveLineItem_of_ne beside stored ?_, by rintro _ ⟨⟩⟩
    obtain ⟨_, _, _, _, rfl⟩ := repriced.eq
    rw [refilled.id, filed.lineItems found]
    exact closed found opened
  | @approve now key old approved new shipment found owner moved kept priced =>
    obtain ⟨status, changed, rfl⟩ := LineItem.apply_eq_ok moved
    have form : ∃ approvedDate amount appliedRate,
        new = { old with status, approvedDate, amount, appliedRate } := by
      rcases priced with rfl | repriced
      · exact ⟨_, old.amount, old.appliedRate, rfl⟩
      · obtain ⟨status', approvedDate, amount, appliedRate, same⟩ := repriced.eq
        rw [same] at kept
        obtain rfl : status = status' := kept.symm
        exact ⟨approvedDate, amount, appliedRate, same⟩
    obtain ⟨approvedDate, amount, appliedRate, rfl⟩ := form
    have sameId : old.id = key := filed.lineItems found
    by_cases here : id = key
    · subst here
      rw [stored] at found
      obtain rfl := Option.some.inj found
      refine .inr ⟨⟨now, rfl⟩, status, approvedDate, amount, appliedRate, ?_, ?_⟩
      · obtain ⟨reached, elsewhere, _⟩ := LineItemStatus.transition_eq_ok.1 changed
        exact reached ▸ elsewhere.symm
      · rw [Store.saveLineItem, SortedMap.get?_insert, if_pos sameId.symm]
    · refine .inl ⟨get?_saveLineItem_of_ne (.refl s) stored ?_, ?_⟩
      · rw [← sameId] at here
        exact here
      · rintro _ ⟨⟩
        exact here rfl
  | delete found opened beside =>
    refine .inl ⟨?_, by rintro _ ⟨⟩⟩
    have other := closed found opened
    rw [beside.lineItems, SortedMap.get?_erase, if_neg, stored]
    rwa [filed.lineItems found]
  | sit beside =>
    refine .inl ⟨?_, by rintro _ ⟨⟩⟩
    rw [beside.lineItems, stored]
  | recalculate found ran =>
    refine .inl ⟨Recalculator.run_get?_of_isInvoiced filed ?_ stored invoiced ran, by rintro _ ⟨⟩⟩
    rw [filed.shipments found]
    exact fresh
  | deliver found left beside demand ran =>
    refine .inl ⟨?_, by rintro _ ⟨⟩⟩
    rw [← beside.lineItems] at stored
    refine Recalculator.run_get?_of_isInvoiced (beside.filed filed) ?_ stored invoiced ran
    obtain ⟨-, rfl⟩ := Shipment.deliver_eq_ok left
    obtain rfl := filed.shipments found
    exact IdSupply.FreshFor.congr fresh (demand filed) beside.lineItems

/-- An invoiced line item stays in the store, and stays as it is unless an approval of it
succeeds. That changes its status, and may change the date of approval and the price. -/
theorem commit_get?_of_isInvoiced (filed : s.Filed) (fresh : op.IdsFresh s)
    (stored : s.lineItems.get? id = some item) (invoiced : item.isInvoiced = true) :
    ((v.commit s op).lineItems.get? id = some item ↔
        ¬ ∃ now s', op = .approveLineItem now id ∧ v.run s op = .ok s') ∧
      ∃ status approvedDate amount appliedRate, (v.commit s op).lineItems.get? id =
        some { item with status, approvedDate, amount, appliedRate } := by
  cases ran : v.run s op with
  | error e =>
    rw [commit_of_error ran]
    refine ⟨iff_of_true stored ?_, _, _, _, _, stored⟩
    rintro ⟨_, _, _, h⟩
    contradiction
  | ok s' =>
    rw [commit_of_ok ran]
    rcases (step_of_run ran).get?_of_isInvoiced filed fresh stored invoiced with
      ⟨kept, other⟩ | ⟨⟨now, approval⟩, status, approvedDate, amount, appliedRate, moved, changed⟩
    · refine ⟨iff_of_true kept ?_, _, _, _, _, kept⟩
      rintro ⟨now, _, approval, _⟩
      exact other now approval
    · refine ⟨iff_of_false ?_ ?_, status, approvedDate, amount, appliedRate, changed⟩
      · intro kept
        rw [changed] at kept
        exact moved (congrArg LineItem.status (Option.some.inj kept))
      · intro never
        exact never ⟨now, s', approval, rfl⟩

theorem commit_get?_of_isInvoiced_sample :
    (Sample.services.commit Sample.store
      (.recalculate Sample.ids Sample.time (Sample.id 1))).lineItems.get? (Sample.id 2) =
        some Sample.estimated := by
  have filed : Sample.store.Filed := Store.filed_ofRecords (r := Sample.records) (by rfl)
  have fresh : (Operation.recalculate Sample.ids Sample.time (Sample.id 1)).IdsFresh Sample.store :=
    ⟨by decide +kernel, by decide +kernel⟩
  have stored : Sample.store.lineItems.get? (Sample.id 2) = some Sample.estimated := by
    decide +kernel
  refine (commit_get?_of_isInvoiced filed fresh stored rfl).1.2 ?_
  rintro ⟨_, _, ⟨⟩, _⟩

/-- Approved again, the item that was billed at its estimate of 50 dollars has its actual
amount of 75 as its price. -/
theorem approve_invoiced_sample :
    Sample.linked.Filed ∧ Sample.linked.lineItems.get? (Sample.id 2) = some Sample.estimated ∧
      Sample.estimated.isInvoiced = true ∧
      (Sample.services.commit Sample.linked
        (.approveLineItem Sample.time (Sample.id 2))).lineItems.get? (Sample.id 2) =
          some { Sample.estimated with status := .approved, amount := some ⟨7500⟩ } ∧
      Sample.estimated.amount = some ⟨5000⟩ := by
  have filed : Sample.store.Filed := Store.filed_ofRecords (r := Sample.records) (by rfl)
  exact ⟨filed.saveShipment _, by decide +kernel, rfl, by decide +kernel, rfl⟩

end Services
end Haulage
