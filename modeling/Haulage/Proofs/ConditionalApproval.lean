import Haulage.Proofs.Operation

/-! Which line items are conditionally approved. An approval gives the status to items of
the actual-cost code only, and everything that is done later keeps it to them but for one
operation: an update may give the item another code, and leaves the status as it is. -/
namespace Haulage

namespace LineItem

/-- The item is of the actual-cost code if it is conditionally approved. -/
def CodeFits (item : LineItem) : Prop :=
  item.status = .conditionallyApproved → item.tariffCode = actualCostCode

instance (item : LineItem) : Decidable item.CodeFits :=
  inferInstanceAs (Decidable (item.status = .conditionallyApproved → _))

variable {item item' : LineItem}

theorem CodeFits.congr (fits : item.CodeFits) (status : item'.status = item.status)
    (code : item'.tariffCode = item.tariffCode) : item'.CodeFits := by
  rw [CodeFits, status, code]
  exact fits

end LineItem

/-- An approval that is not conditional leads elsewhere. -/
theorem LineItemStatus.action_of_transition {status : LineItemStatus} {action : LineItemAction}
    {code : String} (h : status.transition action code = .ok .conditionallyApproved) :
    action = .conditionallyApprove := by
  cases action with
  | conditionallyApprove => rfl
  | approve => exact absurd (transition_eq_ok.1 h).1 (by decide)

namespace Store
variable {s s' : Store}

/-- Every line item that is conditionally approved is of the actual-cost code. -/
def CodesFit (s : Store) : Prop := ∀ ⦃key item⦄, s.lineItems.get? key = some item → item.CodeFits

theorem codesFit_of_forall (all : ∀ e ∈ s.lineItems.entries, e.2.CodeFits) : s.CodesFit :=
  fun _ _ stored => all _ (SortedMap.get?_eq_some_iff.1 stored)

theorem CodesFit.mono (fits : s.CodesFit)
    (items : ∀ ⦃key item⦄, s'.lineItems.get? key = some item → item.status = .approved ∨
      ∃ home old, s.lineItems.get? home = some old ∧ item.status = old.status ∧
        item.tariffCode = old.tariffCode) : s'.CodesFit := by
  intro key item stored
  rcases items stored with approved | ⟨home, old, before, status, code⟩
  · intro conditional
    rw [approved] at conditional
    contradiction
  · exact (fits before).congr status code

theorem CodesFit.of_lineItems (fits : s.CodesFit) (same : s'.lineItems = s.lineItems) :
    s'.CodesFit := fun _ _ stored => fits (same ▸ stored)

theorem CodesFit.saveLineItem_iff (fits : s.CodesFit) {item : LineItem} :
    (s.saveLineItem item).CodesFit ↔ item.CodeFits := by
  constructor
  · intro after
    exact after (get?_saveLineItem rfl)
  · intro itemFits key other stored
    rw [saveLineItem, SortedMap.get?_insert] at stored
    split at stored
    · obtain rfl := Option.some.inj stored
      exact itemFits
    · exact fits stored

theorem CodesFit.eraseLineItem (fits : s.CodesFit) (id : LineItemId) :
    CodesFit { s with lineItems := s.lineItems.erase id } := by
  intro key item stored
  rw [SortedMap.get?_erase] at stored
  split at stored
  · contradiction
  · exact fits stored

end Store

/-- The operation is no update that gives a conditionally approved item another code. -/
def Operation.KeepsCode (s : Store) : Operation → Prop
  | updateLineItem _ id form => ∀ old, s.lineItems.get? id = some old →
    old.status = .conditionallyApproved → form.tariffCode = actualCostCode
  | createRequest .. | approveLineItem .. | deleteLineItem .. | sit _ | recalculate ..
  | deliverAndPrice .. => True

namespace Calculator
variable {c : Calculator} {now : Timestamp} {id : LineItemId} {form : RequestForm} {s s' : Store}
  {item new : LineItem} {shipment : Shipment} {tariff : TariffItem}

/-- Only of the actual-cost code does the status follow an update. -/
theorem reprice_status (h : c.reprice item tariff shipment s now = .ok new)
    (other : item.tariffCode ≠ actualCostCode) : new.status = item.status := by
  unfold reprice at h
  rw [if_neg fun ready => other (of_decide_eq_true ready.1)] at h
  exact applyTrigger_status h

/-- A request begins as submitted. -/
theorem codesFit_createRequest {shipmentId : ShipmentId} (fits : s.CodesFit)
    (h : c.createRequest id now shipmentId form s = .ok (new, s')) : s'.CodesFit := by
  obtain ⟨side, beside, rfl, refilled⟩ := createRequest_eq_ok h
  refine (fits.of_lineItems beside.lineItems).saveLineItem_iff.2 fun conditional => ?_
  rw [refilled.status] at conditional
  contradiction

theorem codesFit_updateLineItem_iff (fits : s.CodesFit)
    (h : c.updateLineItem now id form s = .ok (new, s')) :
    s'.CodesFit ↔ Operation.KeepsCode s (.updateLineItem now id form) := by
  obtain ⟨old, shipment, tariff, filled, side, stored, _, _, _, _, applied, repriced, rfl⟩ :=
    updateLineItem_iff.1 h
  obtain ⟨refilled, beside⟩ := RequestForm.applyTo_eq_ok applied
  have code : filled.tariffCode = form.tariffCode := RequestForm.applyTo_tariffCode applied
  have newCode : new.tariffCode = form.tariffCode := by
    obtain ⟨_, _, _, _, rfl⟩ := reprice_eq repriced
    exact code
  have kept (other : form.tariffCode ≠ actualCostCode) : new.status = old.status :=
    (reprice_status repriced (code ▸ other)).trans refilled.status
  rw [(fits.of_lineItems beside.lineItems).saveLineItem_iff, LineItem.CodeFits, newCode]
  constructor
  · intro newFits old' stored' conditional
    obtain rfl := Option.some.inj (stored'.symm.trans stored)
    by_contra other
    exact other (newFits ((kept other).trans conditional))
  · intro keeps conditional
    by_contra other
    exact other (keeps old stored ((kept other).symm.trans conditional))

theorem codesFit_approveLineItem (fits : s.CodesFit)
    (h : c.approveLineItem now id s = .ok (new, s')) : s'.CodesFit := by
  obtain ⟨old, shipment, approved, stored, _, moved, status, priced, rfl⟩ := approveLineItem_eq_ok h
  obtain ⟨_, reached, rfl⟩ := LineItem.apply_eq_ok moved
  have code : new.tariffCode = old.tariffCode := by
    rcases priced with rfl | repriced
    · rfl
    · obtain ⟨_, _, _, _, rfl⟩ := repriced.eq
      rfl
  refine fits.saveLineItem_iff.2 fun conditional => ?_
  obtain rfl : _ = LineItemStatus.conditionallyApproved := status.symm.trans conditional
  rw [code]
  exact (LineItem.approval_eq_conditionallyApprove.1
    (LineItemStatus.action_of_transition reached)).1

theorem codesFit_deleteLineItem (fits : s.CodesFit)
    (h : c.deleteLineItem id s = .ok (item, s')) : s'.CodesFit := by
  obtain ⟨_, _, beside⟩ := deleteLineItem_eq_ok h
  exact (fits.eraseLineItem item.id).of_lineItems beside.lineItems

end Calculator

namespace Recalculator
variable {r : Recalculator} {ids : IdSupply} {now : Timestamp} {shipment : Shipment}
  {s s' : Store} {report : RecalculationReport}

/-- A run approves the items that it makes, and leaves code and status of all others. -/
theorem codesFit_run (fits : s.CodesFit) (h : r.run ids now shipment s = .ok (report, s')) :
    s'.CodesFit := by
  obtain ⟨_, weight, _, _, miles, discount, linked, s₁, _, _, _, _, resolved, settled⟩ :=
    run_eq_ok.1 h
  obtain rfl : _ = s' := congrArg Prod.snd settled
  have same : s₁.lineItems = s.lineItems := (resolveDiscount_beside resolved).lineItems
  refine fits.mono fun key item stored => ?_
  rcases settle_get?_cases stored with ⟨drawn, mem, _, _, rfl⟩ | ⟨before, _⟩
  · obtain ⟨_, _, repriced⟩ := (r.calculator.outcome linked discount drawn).applyTo_eq drawn
    rw [Calculator.settledItem, repriced]
    rcases (r.refreshBasket_grows ids now linked weight miles s₁).origin mem with
      ⟨old, memOld, refreshed⟩ | ⟨_, _, made⟩
    · obtain ⟨⟨home, before⟩, _⟩ := Store.of_mem_lineItemsOf memOld
      exact .inr ⟨home, old, same ▸ before, refreshed.status_eq, refreshed.tariffCode_eq⟩
    · cases made
      exact .inl rfl
  · exact .inr ⟨key, item, same ▸ before, rfl, rfl⟩

end Recalculator

namespace Services
variable {v : Services} {s s' : Store} {op : Operation}

/-- What the operation must keep to if it succeeds. -/
def KeepsCode (v : Services) (s : Store) (op : Operation) : Prop :=
  ∀ s', v.run s op = .ok s' → op.KeepsCode s

theorem codesFit_of_run_iff (fits : s.CodesFit) (h : v.run s op = .ok s') :
    s'.CodesFit ↔ op.KeepsCode s := by
  cases op with
  | createRequest id now shipmentId form =>
    obtain ⟨⟨item, _⟩, created, rfl⟩ := map_eq_ok.1 h
    exact iff_of_true (Calculator.codesFit_createRequest fits created) trivial
  | updateLineItem now id form =>
    obtain ⟨⟨item, _⟩, updated, rfl⟩ := map_eq_ok.1 h
    exact Calculator.codesFit_updateLineItem_iff fits updated
  | approveLineItem now id =>
    obtain ⟨⟨item, _⟩, approved, rfl⟩ := map_eq_ok.1 h
    exact iff_of_true (Calculator.codesFit_approveLineItem fits approved) trivial
  | deleteLineItem id =>
    obtain ⟨⟨item, _⟩, deleted, rfl⟩ := map_eq_ok.1 h
    exact iff_of_true (Calculator.codesFit_deleteLineItem fits deleted) trivial
  | sit operation =>
    obtain ⟨⟨sit, _⟩, changed, rfl⟩ := map_eq_ok.1 h
    exact iff_of_true (fits.of_lineItems (SitOperation.beside changed).lineItems) trivial
  | recalculate ids now id =>
    obtain ⟨⟨report, _⟩, recalculated, rfl⟩ := map_eq_ok.1 h
    obtain ⟨_, _, ran⟩ := Recalculator.recalculate_eq_ok.1 recalculated
    exact iff_of_true (Recalculator.codesFit_run fits ran) trivial
  | deliverAndPrice ids now id date =>
    obtain ⟨⟨report, _⟩, delivered, rfl⟩ := map_eq_ok.1 h
    obtain ⟨_, _, _, _, _, beside, _, ran⟩ := Recalculator.deliverAndPrice_eq_ok delivered
    have fits₁ := fits.of_lineItems beside.lineItems
    exact iff_of_true (Recalculator.codesFit_run fits₁ ran) trivial

theorem codesFit_commit_iff (fits : s.CodesFit) : (v.commit s op).CodesFit ↔ v.KeepsCode s op :=
  commit_iff_of_run fits fun _ => codesFit_of_run_iff fits

/-- In all stores that a run comes to, only the actual-cost code is conditionally approved,
exactly if no update that succeeds in it gives a conditionally approved item another code. -/
theorem codesFit_commitAll_iff (fits : s.CodesFit) (ops : List (Services × Operation)) :
    (∀ done, done <+: ops → (commitAll s done).CodesFit) ↔ Along KeepsCode s ops :=
  commitAll_iff_along (fun _ _ _ => codesFit_commit_iff) fits ops

/-- A third party's service is requested with an estimate and approved, and then its actual
amount comes in. -/
theorem codesFit_commitAll_iff_sample :
    let form : RequestForm :=
      { tariffCode := "35A", location := .origin, estimateAmount := some ⟨5000⟩ }
    let ops : List (Services × Operation) :=
      [(Sample.services, .createRequest (Sample.id 3) Sample.time (Sample.id 1) form),
        (Sample.services, .approveLineItem Sample.time (Sample.id 3)),
        (Sample.services,
          .updateLineItem Sample.time (Sample.id 3) { form with actualAmount := some ⟨7500⟩ })]
    Sample.linked.CodesFit ∧
      ((commitAll Sample.linked (ops.take 2)).lineItems.get? (Sample.id 3)).map (·.status) =
        some .conditionallyApproved ∧
      ((commitAll Sample.linked ops).lineItems.get? (Sample.id 3)).map (·.status) =
        some .approved ∧
      ∀ done, done <+: ops → (commitAll Sample.linked done).CodesFit := by
  intro form ops
  have fits : Sample.linked.CodesFit := Store.codesFit_of_forall (by decide +kernel)
  refine ⟨fits, by decide +kernel, by decide +kernel,
    (codesFit_commitAll_iff fits ops).2 ⟨?_, ?_, ?_, trivial⟩⟩
  · exact fun _ _ => trivial
  · exact fun _ _ => trivial
  · exact fun _ _ _ _ _ => rfl

/-- The estimated service, conditionally approved, becomes crating: it stays conditionally
approved, is charged for crating, and can never be approved. -/
theorem recoded_estimate_sample :
    let ops : List (Services × Operation) :=
      [(Sample.services, .createRequest (Sample.id 3) Sample.time (Sample.id 1)
          { tariffCode := "35A", location := .origin, estimateAmount := some ⟨5000⟩ }),
        (Sample.services, .approveLineItem Sample.time (Sample.id 3)),
        (Sample.services, .updateLineItem Sample.time (Sample.id 3)
          { tariffCode := "105B", location := .origin, quantity1 := .ofUnits 2 })]
    Sample.linked.Filed ∧ Sample.linked.CodesFit ∧
      ((commitAll Sample.linked ops).lineItems.get? (Sample.id 3)).map
        (fun item => (item.status, item.tariffCode, item.amount)) =
          some (.conditionallyApproved, "105B", some ⟨200⟩) ∧
      Sample.services.run (commitAll Sample.linked ops)
        (.approveLineItem Sample.time (Sample.id 3)) =
          .error (.invalidTransition "CONDITIONALLY_APPROVED" "approve") ∧
      ¬ (commitAll Sample.linked ops).CodesFit := by
  intro ops
  have recoded : ((commitAll Sample.linked ops).lineItems.get? (Sample.id 3)).map
      (fun item => (item.status, item.tariffCode, item.amount)) =
        some (.conditionallyApproved, "105B", some ⟨200⟩) := by decide +kernel
  refine ⟨Sample.filed_store.saveShipment _,
    Store.codesFit_of_forall (by decide +kernel), recoded, by decide +kernel, fun fits => ?_⟩
  obtain ⟨item, stored, same⟩ := Option.map_eq_some_iff.1 recoded
  obtain ⟨conditional, code, -⟩ : item.status = .conditionallyApproved ∧
    item.tariffCode = "105B" ∧ item.amount = some ⟨200⟩ := by simpa using same
  exact absurd (code.symm.trans (fits stored conditional)) (by decide)

end Services
end Haulage
