import Haulage.Proofs.Operation

/-! Money is attached only to approved items of delivered shipments. No operation takes
the approval of an item or the delivery of a shipment back, so a price that an operation
leaves alone stays where it may be. -/
namespace Haulage

namespace Store

/-- An amount comes with its rate, on an approved item of a delivered shipment. -/
structure Gates (s : Store) (item : LineItem) : Prop where
  together : item.amount.isSome ↔ item.appliedRate.isSome
  approved : item.amount.isSome → item.status = .conditionallyApproved ∨ item.status = .approved
  delivered : item.amount.isSome → ∃ shipment, s.shipments.get? item.shipmentId = some shipment ∧
    (shipment.status = .delivered ∨ shipment.status = .completed)

def ItemsGated (s : Store) : Prop := ∀ ⦃id item⦄, s.lineItems.get? id = some item → s.Gates item

def ChargesGated (s : Store) : Prop :=
  ∀ ⦃id shipment⦄, s.shipments.get? id = some shipment → shipment.linehaulCharge.isSome →
    shipment.status = .delivered ∨ shipment.status = .completed

/-- All money stands where it may: prices on line items, linehaul charges on delivered
shipments. -/
structure Gated (s : Store) : Prop where
  items : s.ItemsGated
  charges : s.ChargesGated

section Decidable
variable (s : Store)

instance (item : LineItem) : Decidable (s.Gates item) :=
  decidable_of_iff ((item.amount.isSome ↔ item.appliedRate.isSome) ∧
    (item.amount.isSome → item.status = .conditionallyApproved ∨ item.status = .approved) ∧
    (item.amount.isSome → (s.shipments.get? item.shipmentId).any (·.status.isPriceable))) <| by
    simp only [Option.any_eq_true, ShipmentStatus.isPriceable, decide_eq_true_eq]
    exact ⟨fun ⟨together, approved, delivered⟩ => ⟨together, approved, delivered⟩,
      fun ⟨together, approved, delivered⟩ => ⟨together, approved, delivered⟩⟩

instance : Decidable s.ItemsGated :=
  decidable_of_iff _ (SortedMap.forall_get?_iff s.lineItems fun _ item => s.Gates item).symm

instance : Decidable s.ChargesGated :=
  decidable_of_iff _ (SortedMap.forall_get?_iff s.shipments fun _ shipment =>
    shipment.linehaulCharge.isSome →
      shipment.status = .delivered ∨ shipment.status = .completed).symm

instance : Decidable s.Gated :=
  decidable_of_iff (s.ItemsGated ∧ s.ChargesGated) ⟨fun h => ⟨h.1, h.2⟩, fun h => ⟨h.1, h.2⟩⟩

end Decidable

/-- Shipments that are delivered in `s` are delivered in `s'`. -/
def KeepsDelivered (s s' : Store) : Prop :=
  ∀ ⦃id shipment⦄, s.shipments.get? id = some shipment → shipment.status.isPriceable →
    ∃ shipment', s'.shipments.get? id = some shipment' ∧ shipment'.status.isPriceable

variable {s s' : Store} {item new : LineItem}

theorem keepsDelivered_of_shipments (same : s'.shipments = s.shipments) : s.KeepsDelivered s' := by
  intro id shipment stored delivered
  exact ⟨shipment, same ▸ stored, delivered⟩

theorem gates_of_unpriced (amount : item.amount = none) (rate : item.appliedRate = none) :
    s.Gates item := by
  constructor
  · simp [amount, rate]
  · intro priced
    rw [amount] at priced
    contradiction
  · intro priced
    rw [amount] at priced
    contradiction

theorem Gates.mono (gates : s.Gates item) (keeps : s.KeepsDelivered s') : s'.Gates item := by
  refine ⟨gates.together, gates.approved, ?_⟩
  intro priced
  obtain ⟨shipment, stored, delivered⟩ := gates.delivered priced
  obtain ⟨shipment', stored', delivered'⟩ :=
    keeps stored (ShipmentStatus.isPriceable_iff.2 delivered)
  exact ⟨shipment', stored', ShipmentStatus.isPriceable_iff.1 delivered'⟩

theorem Gates.congr (gates : s.Gates item) (shipmentId : new.shipmentId = item.shipmentId)
    (status : new.status = item.status) (amount : new.amount = item.amount)
    (rate : new.appliedRate = item.appliedRate) : s.Gates new := by
  constructor
  · rw [amount, rate]
    exact gates.together
  · rw [amount, status]
    exact gates.approved
  · rw [amount, shipmentId]
    exact gates.delivered

theorem Gates.refilled (gates : s.Gates item) (refilled : item.Refilled new) : s.Gates new :=
  gates.congr refilled.shipmentId refilled.status refilled.amount refilled.appliedRate

theorem Gates.requantified (gates : s.Gates item) (h : item.Requantified new) : s.Gates new :=
  gates.congr h.shipmentId_eq h.status_eq h.amount_eq h.appliedRate_eq

/-- Every status that an action leads to is an approved one. -/
theorem Gates.apply {action : LineItemAction} {now : Timestamp} (gates : s.Gates item)
    (h : item.apply action now = .ok new) : s.Gates new := by
  obtain ⟨status, moved, rfl⟩ := LineItem.apply_eq_ok h
  refine ⟨gates.together, ?_, gates.delivered⟩
  intro _
  exact LineItemStatus.isPriceable_iff.1 (LineItemStatus.isPriceable_of_transition moved)

theorem Gates.repriced {c : Calculator} {link : Except Error DiscountRate} {shipment : Shipment}
    (gates : s.Gates item) (owner : s.shipments.get? item.shipmentId = some shipment)
    (repriced : c.Repriced link shipment item new) : s.Gates new := by
  induction repriced with
  | priced approved delivered _ _ =>
    constructor
    · exact iff_of_true rfl rfl
    · intro _
      exact LineItemStatus.isPriceable_iff.1 approved
    · intro _
      exact ⟨shipment, owner, ShipmentStatus.isPriceable_iff.1 delivered⟩
  | cleared => exact gates_of_unpriced rfl rfl
  | early _ => exact gates
  | moved _ h ih => exact ih.apply h

theorem ItemsGated.mono (gated : s.ItemsGated) (keeps : s.KeepsDelivered s')
    (items : ∀ ⦃id item⦄, s'.lineItems.get? id = some item →
      s.lineItems.get? id = some item ∨ s'.Gates item) : s'.ItemsGated := by
  intro id item stored
  rcases items stored with before | gates
  · exact (gated before).mono keeps
  · exact gates

theorem ItemsGated.beside (gated : s.ItemsGated) (beside : s.Beside s') : s'.ItemsGated := by
  refine gated.mono (keepsDelivered_of_shipments beside.shipments) ?_
  intro id item stored
  exact .inl (beside.lineItems ▸ stored)

theorem ItemsGated.saveLineItem (gated : s.ItemsGated) (gates : s.Gates item) :
    (s.saveLineItem item).ItemsGated := by
  refine gated.mono (keepsDelivered_of_shipments rfl) ?_
  intro id item' stored
  rw [Store.saveLineItem, SortedMap.get?_insert] at stored
  split at stored
  · obtain rfl := Option.some.inj stored
    exact .inr ⟨gates.together, gates.approved, gates.delivered⟩
  · exact .inl stored

theorem ItemsGated.eraseLineItem (gated : s.ItemsGated) (id : LineItemId) :
    ItemsGated { s with lineItems := s.lineItems.erase id } := by
  refine gated.mono (keepsDelivered_of_shipments rfl) ?_
  intro key item stored
  rw [SortedMap.get?_erase] at stored
  split at stored
  · contradiction
  · exact .inl stored

end Store

namespace Recalculator
variable {r : Recalculator} {s s' : Store} {id : ShipmentId} {after : Shipment}
  {discount : DiscountRate} {item : LineItem}

theorem Drawn.shipmentId_eq (drawn : Drawn s id item) : item.shipmentId = id := by
  cases drawn with
  | kept _ owner refreshed => exact refreshed.shipmentId_eq.trans owner
  | made made => exact made.shipmentId_eq

theorem Drawn.gates (drawn : Drawn s id item) (gated : s.ItemsGated) : s.Gates item := by
  cases drawn with
  | kept stored _ refreshed => exact (gated stored).requantified refreshed
  | made made => exact Store.gates_of_unpriced made.amount_eq made.appliedRate_eq

theorem Ran.get?_shipment (ran : r.Ran s id after discount s') :
    s'.shipments.get? id = some after := by
  rw [ran.shipments, SortedMap.get?_insert, if_pos rfl]

theorem Ran.keepsDelivered (ran : r.Ran s id after discount s') : s.KeepsDelivered s' := by
  intro other shipment stored delivered
  by_cases same : other = id
  · subst other
    exact ⟨after, ran.get?_shipment, ran.delivered⟩
  · refine ⟨shipment, ?_, delivered⟩
    rw [ran.shipments, SortedMap.get?_insert, if_neg same, stored]

theorem Ran.owner (ran : r.Ran s id after discount s') (drawn : Drawn s id item) :
    s'.shipments.get? item.shipmentId = some after := by
  rw [drawn.shipmentId_eq]
  exact ran.get?_shipment

theorem Ran.gates (ran : r.Ran s id after discount s') (gated : s.ItemsGated)
    (drawn : Drawn s id item) : s'.Gates item := (drawn.gates gated).mono ran.keepsDelivered

theorem Ran.itemsGated (ran : r.Ran s id after discount s') (gated : s.ItemsGated) :
    s'.ItemsGated := by
  refine gated.mono ran.keepsDelivered ?_
  intro key item stored
  rcases ran.lineItems stored with ⟨before, drawn, repriced⟩ | ⟨stood, -⟩
  · exact .inr ((ran.gates gated drawn).repriced (ran.owner drawn) repriced)
  · exact .inl stood

theorem Ran.gated (ran : r.Ran s id after discount s') (gated : s.Gated) : s'.Gated := by
  refine ⟨ran.itemsGated gated.items, ?_⟩
  intro other shipment stored charged
  rw [ran.shipments, SortedMap.get?_insert] at stored
  split at stored
  · obtain rfl := Option.some.inj stored
    exact ShipmentStatus.isPriceable_iff.1 ran.delivered
  · exact gated.charges stored charged

end Recalculator

namespace Store
variable {s s' : Store} {item : LineItem}

theorem Gated.beside (gated : s.Gated) (beside : s.Beside s') : s'.Gated := by
  refine ⟨gated.items.beside beside, ?_⟩
  intro id shipment stored
  rw [beside.shipments] at stored
  exact gated.charges stored

theorem Gated.saveLineItem (gated : s.Gated) (gates : s.Gates item) :
    (s.saveLineItem item).Gated :=
  ⟨gated.items.saveLineItem gates, gated.charges⟩

end Store

namespace Services
variable {v : Services} {s s' : Store} {op : Operation}

theorem Step.gated (step : v.Step s op s') (gated : s.Gated) : s'.Gated := by
  cases step with
  | create beside refilled =>
    apply (gated.beside beside).saveLineItem
    exact Store.Gates.refilled (Store.gates_of_unpriced rfl rfl) refilled
  | update stored owner _ refilled beside repriced =>
    have gates := ((gated.items stored).refilled refilled).mono
      (Store.keepsDelivered_of_shipments beside.shipments)
    refine (gated.beside beside).saveLineItem (gates.repriced ?_ repriced)
    rw [beside.shipments, refilled.shipmentId]
    exact owner
  | approve stored owner moved _ priced =>
    have gates := (gated.items stored).apply moved
    rcases priced with rfl | repriced
    · exact gated.saveLineItem gates
    · refine gated.saveLineItem (gates.repriced ?_ repriced)
      obtain ⟨status, -, rfl⟩ := LineItem.apply_eq_ok moved
      exact owner
  | delete _ _ beside =>
    exact Store.Gated.beside ⟨gated.items.eraseLineItem _, gated.charges⟩ beside
  | sit beside => exact gated.beside beside
  | recalculate _ ran =>
    obtain ⟨after, discount, ran⟩ := Recalculator.ran_of_run ran
    exact ran.gated gated
  | deliver _ _ beside _ ran =>
    obtain ⟨after, discount, ran⟩ := Recalculator.ran_of_run ran
    exact ran.gated (gated.beside beside)

theorem gated_commit (gated : s.Gated) : (v.commit s op).Gated :=
  commit_of_step gated fun _ step => step.gated gated

/-- Operations lead from gated stores to gated stores only, whatever they are, in
whatever order, and whether they succeed or fail. -/
theorem gated_commitAll (gated : s.Gated) (ops : List (Services × Operation)) :
    (commitAll s ops).Gated := commitAll_of_commit (fun _ _ _ => gated_commit) gated ops

/-- A request is made, waits for the carrier that a recalculation links, and is approved
at a price; what is invoiced cannot be deleted. -/
theorem gated_commitAll_sample :
    let s := commitAll Sample.store
      [(Sample.services, .createRequest (Sample.id 3) Sample.time (Sample.id 1)
          { tariffCode := "105B", location := .origin, quantity1 := .ofUnits 2 }),
        (Sample.services, .approveLineItem Sample.time (Sample.id 3)),
        (Sample.services, .recalculate Sample.ids Sample.time (Sample.id 1)),
        (Sample.services, .approveLineItem Sample.time (Sample.id 3)),
        (Sample.services, .deleteLineItem (Sample.id 1))]
    s.Gated ∧ ((s.lineItems.get? (Sample.id 3)).bind (·.amount)).isSome := by
  have start : Sample.store.Gated := by decide +kernel
  exact ⟨gated_commitAll start _, by decide +kernel⟩

end Services
end Haulage
