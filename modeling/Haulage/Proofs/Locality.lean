import Haulage.Proofs.Basket.Locality
import Haulage.Proofs.Idempotence

/-! What a recalculation of one shipment depends on: its record, its SITs, those of its line
items that a run looks for, and the carriers. Two stores that agree on these may differ in
all else, the other items of the shipment included. A run meets the same fate in both, and
does the same with every item that both have. -/
namespace Haulage

namespace SortedMap
variable {κ α : Type} [Ord κ] {p : α → Bool} {m n : SortedMap κ α}

/-- The entries whose values satisfy `p`. -/
def entriesWhere (m : SortedMap κ α) (p : α → Bool) : List (κ × α) := m.entries.filter (p ·.2)

theorem filter_values (m : SortedMap κ α) (p : α → Bool) :
    m.values.filter p = (m.entriesWhere p).map (·.2) := by
  rw [values, List.filter_map]
  rfl

theorem get?_iff_of_entriesWhere [DecidableEq κ] [Std.TransOrd κ] [Std.LawfulEqOrd κ]
    (agree : n.entriesWhere p = m.entriesWhere p) {k : κ} {v : α} (holds : p v) :
    n.get? k = some v ↔ m.get? k = some v := by
  have mem (l : SortedMap κ α) : l.get? k = some v ↔ (k, v) ∈ l.entriesWhere p := by
    rw [get?_eq_some_iff, entriesWhere, List.mem_filter, and_iff_left holds]
  rw [mem, mem, agree]

end SortedMap

namespace Store

/-- The stores agree on the SITs of a shipment and on those of its line items that a run
looks for. -/
structure SameBasis (t : RateTable) (id : ShipmentId) (s s' : Store) : Prop where
  sits : s'.sits.entriesWhere (·.shipmentId = id) = s.sits.entriesWhere (·.shipmentId = id)
  lineItems : s'.lineItems.entriesWhere (fun item => item.shipmentId = id ∧ t.looksFor item) =
    s.lineItems.entriesWhere (fun item => item.shipmentId = id ∧ t.looksFor item)

/-- The stores agree on all that a recalculation of the shipment depends on. -/
structure AgreesFor (t : RateTable) (id : ShipmentId) (s s' : Store) : Prop
    extends SameCarriers s s', SameBasis t id s s' where
  shipment : s'.shipments.get? id = s.shipments.get? id

variable {t : RateTable} {id : ShipmentId} {s s' : Store}

theorem SameBasis.sitsOf (basis : SameBasis t id s s') : s'.sitsOf id = s.sitsOf id := by
  unfold Store.sitsOf
  rw [SortedMap.filter_values, SortedMap.filter_values, basis.sits]

/-- The item is one that a run looks for, or the stores have the same under its id. -/
def sharedItem (t : RateTable) (s s' : Store) (item : LineItem) : Bool :=
  t.looksFor item || s'.lineItems.get? item.id = s.lineItems.get? item.id

theorem holds_sharedItem : Basket.Holds t (sharedItem t s s') where
  looksFor item sought := by rw [sharedItem, sought, Bool.true_or]
  requantified h := by
    rw [sharedItem, sharedItem, RateTable.looksFor_requantified h, h.id_eq]

theorem SameBasis.lineItemsOf (basis : SameBasis t id s s') (filed : s.Filed)
    (filed' : s'.Filed) :
    (s'.lineItemsOf id).filter (sharedItem t s s') =
      (s.lineItemsOf id).filter (sharedItem t s s') := by
  refine eq_of_perm_of_precedes ?_ (filed'.pairwise_lineItemsOf.filter _)
    (filed.pairwise_lineItemsOf.filter _)
  refine (List.perm_ext_iff_of_nodup (filed'.nodup_lineItemsOf.of_map.filter _)
    (filed.nodup_lineItemsOf.of_map.filter _)).2 fun item => ?_
  rw [List.mem_filter, List.mem_filter, filed'.mem_lineItemsOf, filed.mem_lineItemsOf]
  refine and_congr_left fun shared => and_congr_left fun owner => ?_
  rcases Bool.or_eq_true_iff.1 shared with sought | same
  · exact SortedMap.get?_iff_of_entriesWhere basis.lineItems (by simp [owner, sought])
  · rw [of_decide_eq_true same]

/-- The items of a shipment under one id are the one that is stored there. -/
theorem Filed.filter_lineItemsOf (filed : s.Filed) {key : LineItemId} {item : LineItem}
    (stored : s.lineItems.get? key = some item) (owner : item.shipmentId = id) :
    (s.lineItemsOf id).filter (·.id = key) = [item] := by
  have alone : ((s.lineItemsOf id).filter (·.id = key)).Nodup :=
    filed.nodup_lineItemsOf.of_map.filter _
  refine List.perm_singleton.1 ((List.perm_ext_iff_of_nodup alone (List.nodup_singleton _)).2 ?_)
  intro x
  rw [List.mem_filter, filed.mem_lineItemsOf, List.mem_singleton, decide_eq_true_eq]
  constructor
  · rintro ⟨⟨found, _⟩, rfl⟩
    exact Option.some.inj (found.symm.trans stored)
  · rintro rfl
    obtain rfl := filed.lineItems stored
    exact ⟨⟨stored, owner⟩, rfl⟩

end Store

/-- What the report says of one line item, and of the shipment. -/
def RecalculationReport.about (report : RecalculationReport) (id : LineItemId) :
    RecalculationReport :=
  { report with
    lineItems := report.lineItems.filter (·.id = id)
    created := report.created.filter (· = id)
    priced := report.priced.filter (· = id)
    unpriced := report.unpriced.filter (· = id)
    skippedInvoiced := report.skippedInvoiced.filter (· = id)
    failures := report.failures.filter (·.lineItemId = some id) }

namespace Recalculator

/-- Two runs leave the same item of the shipment under an id, and report the same of it. -/
def SameItem (id : ShipmentId) (x y : RecalculationReport × Store) (key : LineItemId) : Prop :=
  (∃ item, item.shipmentId = id ∧
    x.2.lineItems.get? key = some item ∧ y.2.lineItems.get? key = some item) ∧
  y.1.about key = x.1.about key

/-- Runs for the shipment, from stores `s` and `t`, come to the same: the shipment with its
charge, the items made, and every item of the shipment that was made or that both stores
had. -/
structure SameFor (s t : Store) (id : ShipmentId) (x y : RecalculationReport × Store) : Prop where
  shipment : y.2.shipments.get? id = x.2.shipments.get? id
  shipmentCharge : y.1.shipmentCharge = x.1.shipmentCharge
  created : y.1.created = x.1.created
  made : ∀ key ∈ x.1.created, SameItem id x y key
  shared : ∀ ⦃key item⦄, item.shipmentId = id → s.lineItems.get? key = some item →
    t.lineItems.get? key = some item → SameItem id x y key

variable {r : Recalculator} {ids : IdSupply} {now : Timestamp} {shipment : Shipment}
  {id : ShipmentId} {weight : Pounds} {miles : Miles} {discount : DiscountRate}
  {b c : Basket} {key : LineItemId} {s t : Store}

theorem agreeOn_refreshBasket (basis : Store.SameBasis r.calculator.rates shipment.id s t)
    (filed : s.Filed) (filed' : t.Filed) :
    (r.refreshBasket ids now shipment weight miles s).AgreeOn
      (Store.sharedItem r.calculator.rates s t)
      (r.refreshBasket ids now shipment weight miles t) := by
  unfold refreshBasket
  rw [basis.sitsOf]
  have start : Basket.AgreeOn (Store.sharedItem r.calculator.rates s t)
      { items := s.lineItemsOf shipment.id, created := [] }
      { items := t.lineItemsOf shipment.id, created := [] } :=
    ⟨rfl, basis.lineItemsOf filed filed'⟩
  exact start.refreshed Store.holds_sharedItem

/-- What a report says of one item comes from the items of the basket under its id. -/
theorem filter_results {β : Type} {entry : LineItem × PricingOutcome → Option β} {p : β → Bool}
    (names : ∀ item o x, entry (item, o) = some x → p x = decide (item.id = key))
    (outcome : LineItem → PricingOutcome) (items : List LineItem) :
    ((items.map fun item => (item, outcome item)).filterMap entry).filter p =
      ((items.filter (·.id = key)).map fun item => (item, outcome item)).filterMap entry := by
  rw [List.filterMap_map, List.filterMap_map, List.filter_filterMap, List.filterMap_filter]
  refine List.filterMap_congr fun item _ => ?_
  simp only [Function.comp_apply]
  cases found : entry (item, outcome item) with
  | none => simp
  | some x => rw [Option.filter_some, names item _ x found]

theorem settle_about (created : c.created = b.created)
    (items : c.items.filter (·.id = key) = b.items.filter (·.id = key))
    (lineItems : ((r.settle c shipment miles discount t).2.lineItemsOf shipment.id).filter
      (·.id = key) =
        ((r.settle b shipment miles discount s).2.lineItemsOf shipment.id).filter (·.id = key)) :
    (r.settle c shipment miles discount t).1.about key =
      (r.settle b shipment miles discount s).1.about key := by
  have drawn {β : Type} {entry : LineItem × PricingOutcome → Option β} {p : β → Bool}
      (names : ∀ item o x, entry (item, o) = some x → p x = decide (item.id = key)) :
      ((c.items.map fun item => (item, r.calculator.outcome
        (r.charged shipment miles discount) discount item)).filterMap entry).filter p =
      ((b.items.map fun item => (item, r.calculator.outcome
        (r.charged shipment miles discount) discount item)).filterMap entry).filter p := by
    rw [filter_results names, filter_results names, items]
  have listed {said : Prop} [Decidable said] {item : LineItem} {x : LineItemId}
      (h : (if said then some item.id else none) = some x) :
      decide (x = key) = decide (item.id = key) := by
    split at h
    · rw [Option.some.inj h]
    · contradiction
  unfold RecalculationReport.about
  simp only [settle, RecalculationReport.mk.injEq, List.filter_append, List.append_cancel_left_eq,
    true_and, and_true]
  refine ⟨lineItems, by rw [created], drawn fun _ _ _ h => listed h, drawn fun _ _ _ h => listed h,
    drawn fun _ _ _ h => listed h, drawn fun item o x h => ?_⟩
  cases o with
  | failed e =>
    obtain rfl := Option.some.inj h
    simp only [Option.some.injEq]
  | invoiced | priced | unpriced | untouched => contradiction

/-- Under an id of which the stores have the same, the baskets have the same. -/
theorem filter_of_agreeOn (agree : b.AgreeOn (Store.sharedItem r.calculator.rates s t) c)
    (same : t.lineItems.get? key = s.lineItems.get? key) :
    c.items.filter (·.id = key) = b.items.filter (·.id = key) := by
  have within (items : List LineItem) :
      (items.filter (Store.sharedItem r.calculator.rates s t)).filter (·.id = key) =
        items.filter (·.id = key) := by
    rw [List.filter_filter]
    refine List.filter_congr fun item _ => ?_
    cases here : decide (item.id = key) with
    | false => rfl
    | true =>
      rw [← of_decide_eq_true here] at same
      rw [Store.sharedItem, decide_eq_true same, Bool.or_true, Bool.and_true]
  rw [← within c.items, ← within b.items, agree.items]

theorem mem_of_agreeOn (agree : b.AgreeOn (Store.sharedItem r.calculator.rates s t) c)
    {item : LineItem} (same : t.lineItems.get? item.id = s.lineItems.get? item.id)
    (mem : item ∈ b.items) : item ∈ c.items := by
  have both : item ∈ b.items.filter (·.id = item.id) :=
    List.mem_filter.2 ⟨mem, decide_eq_true rfl⟩
  rw [← filter_of_agreeOn agree same] at both
  exact (List.mem_filter.1 both).1

/-- An item that both baskets have ends the same, and is reported in the same way. -/
theorem settle_shared (filed : s.Filed) (filed' : t.Filed)
    (grows : Basket.Grows ids shipment.id now
      { items := s.lineItemsOf shipment.id, created := [] } b)
    (grows' : Basket.Grows ids shipment.id now
      { items := t.lineItemsOf shipment.id, created := [] } c)
    (distinct : (b.items.map (·.id)).Nodup) (distinct' : (c.items.map (·.id)).Nodup)
    (agree : b.AgreeOn (Store.sharedItem r.calculator.rates s t) c) {item : LineItem}
    (same : t.lineItems.get? item.id = s.lineItems.get? item.id) (mem : item ∈ b.items) :
    SameItem shipment.id (r.settle b shipment miles discount s)
      (r.settle c shipment miles discount t) item.id := by
  have stored : (r.settle b shipment miles discount s).2.lineItems.get? item.id =
      some (r.calculator.settledItem shipment discount item) :=
    settle_get?_of_grown filed distinct grows mem
  have stored' : (r.settle c shipment miles discount t).2.lineItems.get? item.id =
      some (r.calculator.settledItem shipment discount item) :=
    settle_get?_of_grown filed' distinct' grows' (mem_of_agreeOn agree same mem)
  have owner : (r.calculator.settledItem shipment discount item).shipmentId = shipment.id := by
    rw [Calculator.settledItem, PricingOutcome.applyTo_shipmentId]
    exact grown_shipmentId filed grows mem
  refine ⟨⟨_, owner, stored, stored'⟩, ?_⟩
  refine settle_about agree.created (filter_of_agreeOn agree same) ?_
  rw [(filed_settle filed).filter_lineItemsOf stored owner,
    (filed_settle filed').filter_lineItemsOf stored' owner]

theorem settle_sameFor (basis : Store.SameBasis r.calculator.rates shipment.id s t)
    (filed : s.Filed) (filed' : t.Filed) (fresh : ids.FreshFor s shipment.id)
    (fresh' : ids.FreshFor t shipment.id) :
    SameFor s t shipment.id
      (r.settle (r.refreshBasket ids now shipment weight miles s) shipment miles discount s)
      (r.settle (r.refreshBasket ids now shipment weight miles t) shipment miles discount t) := by
  have agree : (r.refreshBasket ids now shipment weight miles s).AgreeOn
      (Store.sharedItem r.calculator.rates s t)
      (r.refreshBasket ids now shipment weight miles t) :=
    agreeOn_refreshBasket basis filed filed'
  have grows := r.refreshBasket_grows ids now shipment weight miles s
  have grows' := r.refreshBasket_grows ids now shipment weight miles t
  have inBoth {item : LineItem} (same : t.lineItems.get? item.id = s.lineItems.get? item.id)
      (mem : item ∈ (r.refreshBasket ids now shipment weight miles s).items) :
      SameItem shipment.id
        (r.settle (r.refreshBasket ids now shipment weight miles s) shipment miles discount s)
        (r.settle (r.refreshBasket ids now shipment weight miles t) shipment miles discount t)
        item.id :=
    settle_shared filed filed' grows grows' (Basket.nodup_ids filed fresh)
      (Basket.nodup_ids filed' fresh') agree same mem
  constructor
  case shipment => simp only [settle_store, SortedMap.get?_insert, if_true]
  case shipmentCharge => rfl
  case created => exact agree.created
  case made =>
    intro key made
    have made : key ∈ (r.refreshBasket ids now shipment weight miles s).created := made
    have made' : key ∈ (r.refreshBasket ids now shipment weight miles t).created := by
      rwa [agree.created]
    have drawn : key ∈ (r.refreshBasket ids now shipment weight miles s).items.map (·.id) := by
      rw [grows.ids_eq rfl]
      exact List.mem_append_right _ made
    obtain ⟨item, mem, rfl⟩ := List.mem_map.1 drawn
    refine inBoth ?_ mem
    rw [Basket.get?_of_mem_created fresh made, Basket.get?_of_mem_created fresh' made']
  case shared =>
    intro key item owner stored stored'
    obtain rfl : item.id = key := filed.lineItems stored
    obtain ⟨new, mem, kept⟩ := grows.kept (filed.mem_lineItemsOf.2 ⟨stored, owner⟩)
    rw [← kept.id_eq] at stored stored' ⊢
    exact inBoth (stored'.trans stored.symm) mem

theorem run_sameFate (agrees : Store.AgreesFor r.calculator.rates shipment.id s t) (filed : s.Filed)
    (filed' : t.Filed) (fresh : ids.FreshFor s shipment.id) (fresh' : ids.FreshFor t shipment.id) :
    SameFate (SameFor s t shipment.id) (r.run ids now shipment s) (r.run ids now shipment t) := by
  unfold run
  split
  · exact .error _
  · refine .after _ fun weight _ => .after _ fun pickup _ => ?_
    refine .after _ fun delivery _ => .after _ fun miles _ => ?_
    refine (resolveDiscount_sameFate agrees.toSameCarriers).bind ?_
    rintro ⟨discount, linked, s₁⟩ ⟨discount', linked', t₁⟩ resolved resolved' ⟨same, sameLink, -⟩
    obtain rfl : discount = discount' := same.symm
    obtain rfl : linked = linked' := sameLink.symm
    have beside := resolveDiscount_beside resolved
    have beside' := resolveDiscount_beside resolved'
    have sameId : linked.id = shipment.id := resolveDiscount_id resolved
    have basis : Store.SameBasis r.calculator.rates linked.id s₁ t₁ := by
      constructor
      · rw [sameId, resolveDiscount_sits resolved, resolveDiscount_sits resolved', agrees.sits]
      · rw [sameId, beside.lineItems, beside'.lineItems, agrees.lineItems]
    have settled : SameFor s₁ t₁ linked.id
        (r.settle (r.refreshBasket ids now linked weight miles s₁) linked miles discount s₁)
        (r.settle (r.refreshBasket ids now linked weight miles t₁) linked miles discount t₁) :=
      settle_sameFor basis (beside.filed filed) (beside'.filed filed')
        (fresh.resolveDiscount resolved) (fresh'.resolveDiscount resolved')
    refine .ok (sameId ▸ { settled with shared := fun key item owner stored stored' => ?_ })
    rw [← beside.lineItems] at stored
    rw [← beside'.lineItems] at stored'
    exact settled.shared owner stored stored'

/-- A recalculation depends on nothing but the shipment, its SITs, its line items that are
tied to a SIT or count as base charges, and the carriers. Of the other items of the shipment
none makes a difference to another. -/
theorem recalculate_local (agrees : Store.AgreesFor r.calculator.rates id s t) (filed : s.Filed)
    (filed' : t.Filed) (fresh : ids.FreshFor s id) (fresh' : ids.FreshFor t id) :
    SameFate (SameFor s t id) (r.recalculate ids now id s) (r.recalculate ids now id t) := by
  unfold recalculate Store.loadShipment
  rw [agrees.shipment]
  refine .after _ fun shipment stored => ?_
  obtain rfl : shipment.id = id := filed.shipments (require_eq_ok.1 stored)
  exact run_sameFate agrees filed filed' fresh fresh'

/-- One store has a request under a code that is not in the tariff, the other a request for
crating in its place, another shipment with a stay, and no addresses. -/
theorem recalculate_local_sample :
    let s := Sample.store.saveLineItem { Sample.crating with tariffCode := "105Z" }
    let t : Store :=
      { ((Sample.store.saveLineItem Sample.crating).saveShipment Sample.otherShipment).saveSit
          { Sample.movedSit with id := Sample.id 2 } with addresses := .empty }
    Store.AgreesFor Sample.rates (Sample.id 1) s t ∧ s.Filed ∧ t.Filed ∧
      Sample.ids.FreshFor s (Sample.id 1) ∧ Sample.ids.FreshFor t (Sample.id 1) ∧
      ∃ x y, Sample.recalculator.recalculate Sample.ids Sample.time (Sample.id 1) s = .ok x ∧
        Sample.recalculator.recalculate Sample.ids Sample.time (Sample.id 1) t = .ok y ∧
        x.1.failures.length = 5 ∧ y.1.failures.length = 4 ∧ SameFor s t (Sample.id 1) x y := by
  intro s t
  have agrees : Store.AgreesFor Sample.rates (Sample.id 1) s t :=
    ⟨⟨rfl, rfl, rfl, rfl⟩, ⟨by decide +kernel, by decide +kernel⟩, by decide +kernel⟩
  have filed : s.Filed := Sample.filed_store.saveLineItem _
  have filed' : t.Filed :=
    { ((Sample.filed_store.saveLineItem _).saveShipment _).saveSit _ with
      addresses := SortedMap.filedBy_empty }
  have fresh : Sample.ids.FreshFor s (Sample.id 1) := ⟨by decide +kernel, by decide +kernel⟩
  have fresh' : Sample.ids.FreshFor t (Sample.id 1) := ⟨by decide +kernel, by decide +kernel⟩
  have fate : SameFate (SameFor s t (Sample.id 1))
      (Sample.recalculator.recalculate Sample.ids Sample.time (Sample.id 1) s)
      (Sample.recalculator.recalculate Sample.ids Sample.time (Sample.id 1) t) :=
    recalculate_local agrees filed filed' fresh fresh'
  have five : (Sample.recalculator.recalculate Sample.ids Sample.time (Sample.id 1)
      s).toOption.map (·.1.failures.length) = some 5 := by decide +kernel
  have four : (Sample.recalculator.recalculate Sample.ids Sample.time (Sample.id 1)
      t).toOption.map (·.1.failures.length) = some 4 := by decide +kernel
  obtain ⟨x, found, five⟩ := Option.map_eq_some_iff.1 five
  obtain ⟨y, found', four⟩ := Option.map_eq_some_iff.1 four
  have ran := toOption_eq_some.1 found
  have ran' := toOption_eq_some.1 found'
  refine ⟨agrees, filed, filed', fresh, fresh', x, y, ran, ran', five, four, ?_⟩
  rw [ran, ran'] at fate
  cases fate with
  | ok same => exact same

end Recalculator
end Haulage
