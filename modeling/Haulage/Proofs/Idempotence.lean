import Haulage.Proofs.Basket.UpToDate
import Haulage.Proofs.Sample
import Haulage.Proofs.Settlement
import Haulage.Proofs.Supply

/-! A recalculation repeated finds nothing to do. The carrier performance that the first
run linked covers the shipment's dates and is used again, the items that the first run
stored are a basket that is up to date, and no outcome depends on the price it sets. -/
namespace Haulage

/-- The report tells what an earlier one told, but that nothing was made. Ids of a list
may stand in another order: the earlier run had its new items last. -/
structure RecalculationReport.Repeats (again first : RecalculationReport) : Prop where
  shipmentId : again.shipmentId = first.shipmentId
  lineItems : again.lineItems = first.lineItems
  created : again.created = []
  priced : again.priced.Perm first.priced
  unpriced : again.unpriced.Perm first.unpriced
  skippedInvoiced : again.skippedInvoiced.Perm first.skippedInvoiced
  failures : again.failures.Perm first.failures
  shipmentCharge : again.shipmentCharge = first.shipmentCharge

namespace Recalculator
variable {r : Recalculator} {ids ids' : IdSupply} {now now' : Timestamp} {shipment : Shipment}
  {id : ShipmentId} {weight : Pounds} {miles : Miles} {discount : DiscountRate}
  {basket again : Basket} {s s' : Store} {report : RecalculationReport} {planner : Planner}

/-- Every item of the basket stands in the store after the settlement. -/
theorem settle_get?_of_grown (filed : s.Filed) (distinct : (basket.items.map (·.id)).Nodup)
    (grows : Basket.Grows ids id now { items := s.lineItemsOf id, created := [] } basket)
    {item : LineItem} (mem : item ∈ basket.items) :
    (r.settle basket shipment miles discount s).2.lineItems.get? item.id =
      some (r.calculator.settledItem shipment discount item) := by
  cases invoiced : item.isInvoiced with
  | false => exact settle_get?_of_mem distinct mem invoiced
  | true =>
    have others : ∀ old ∈ basket.items, old.isInvoiced = false → old.id ≠ item.id := by
      intro old memOld opened same
      obtain rfl := List.inj_on_of_nodup_map distinct memOld mem same
      rw [invoiced] at opened
      contradiction
    rw [settle_get?_of_forall_ne others, Calculator.settledItem_of_isInvoiced invoiced]
    exact grown_get?_of_isInvoiced filed grows mem invoiced

/-- What a shipment has after a settlement is the basket, in new prices. -/
theorem lineItemsOf_settle_perm (filed : s.Filed) (distinct : (basket.items.map (·.id)).Nodup)
    (grows : Basket.Grows ids id now { items := s.lineItemsOf id, created := [] } basket) :
    ((r.settle basket shipment miles discount s).2.lineItemsOf id).Perm
      (basket.items.map (r.calculator.settledItem shipment discount)) := by
  have filed' : (r.settle basket shipment miles discount s).2.Filed := filed_settle filed
  have sameIds : LineItem.id ∘ r.calculator.settledItem shipment discount = LineItem.id :=
    funext settledItem_id
  refine (List.perm_ext_iff_of_nodup filed'.nodup_lineItemsOf.of_map ?_).2 fun item => ?_
  · refine List.Nodup.of_map LineItem.id ?_
    rwa [List.map_map, sameIds]
  rw [filed'.mem_lineItemsOf, List.mem_map]
  constructor
  · rintro ⟨stored, owner⟩
    rcases settle_get?_origin filed grows stored with ⟨old, mem, _, settled⟩ | ⟨_, other⟩
    · exact ⟨old, mem, settled.symm⟩
    · exact absurd owner other
  · rintro ⟨old, mem, rfl⟩
    rw [settledItem_id]
    refine ⟨settle_get?_of_grown filed distinct grows mem, ?_⟩
    rw [Calculator.settledItem, PricingOutcome.applyTo_shipmentId]
    exact grown_shipmentId filed grows mem

/-- Where every item has its settled price and the shipment its charge, a settlement
leaves the store as it is. -/
theorem settle_of_settled
    (charged : s.shipments.get? shipment.id = some (r.charged shipment miles discount))
    (stored : ∀ item ∈ basket.items, s.lineItems.get? item.id = some item)
    (settled : ∀ item ∈ basket.items, r.calculator.settledItem shipment discount item = item) :
    (r.settle basket shipment miles discount s).2 = s := by
  have there : ∀ item ∈ r.settledItems shipment discount basket.items,
      s.lineItems.get? item.id = some item := by
    intro item mem
    obtain ⟨old, memOld, _, rfl⟩ := mem_settledItems.1 mem
    rw [settled old memOld]
    exact stored old memOld
  rw [settle_store, SortedMap.foldl_insert_of_get? there, SortedMap.insert_of_get? charged]

/-- A list that a report draws from its results, by id, code and outcome of each item,
is the same after the items have their prices, up to its order. -/
theorem filterMap_results_perm {β : Type} {items items' : List LineItem}
    (entry : LineItem × PricingOutcome → Option β)
    (blind : ∀ (item : LineItem) (o o' : PricingOutcome),
      entry (o'.applyTo item, o) = entry (item, o))
    (perm : items'.Perm (items.map (r.calculator.settledItem shipment discount))) :
    ((items'.map fun item => (item, r.calculator.outcome shipment discount item)).filterMap
      entry).Perm
    ((items.map fun item => (item, r.calculator.outcome shipment discount item)).filterMap
      entry) := by
  refine ((perm.map _).filterMap entry).trans (.of_eq ?_)
  rw [List.map_map, List.filterMap_map, List.filterMap_map]
  refine List.filterMap_congr fun item _ => ?_
  simp only [Function.comp_apply, Calculator.settledItem, Calculator.outcome_applyTo, blind]

theorem settle_repeats (empty : again.created = [])
    (perm : again.items.Perm
      (basket.items.map (r.calculator.settledItem shipment discount)))
    (same : (r.settle again (r.charged shipment miles discount) miles discount s').2.lineItemsOf
      shipment.id = (r.settle basket shipment miles discount s).2.lineItemsOf shipment.id) :
    (r.settle again (r.charged shipment miles discount) miles discount s').1.Repeats
      (r.settle basket shipment miles discount s).1 where
  shipmentId := rfl
  lineItems := same
  created := empty
  priced := filterMap_results_perm _ (fun _ _ _ => by simp only [PricingOutcome.applyTo_id]) perm
  unpriced := filterMap_results_perm _ (fun _ _ _ => by simp only [PricingOutcome.applyTo_id]) perm
  skippedInvoiced :=
    filterMap_results_perm _ (fun _ _ _ => by simp only [PricingOutcome.applyTo_id]) perm
  failures := .append_left _ <| filterMap_results_perm _ (fun item o o' => by
    cases o <;> simp only [PricingOutcome.applyTo_id, PricingOutcome.applyTo_tariffCode]) perm
  shipmentCharge := rfl

/-- For the stored shipment, `planner` gives the miles that the planner of `r` gives. -/
def SameMiles (r : Recalculator) (planner : Planner) (s : Store) (id : ShipmentId) : Prop :=
  ∀ shipment pickup delivery, s.shipments.get? id = some shipment →
    shipment.pickupAddress = some pickup → shipment.deliveryAddress = some delivery →
    planner.distance pickup delivery r.distanceTimeout =
      r.planner.distance pickup delivery r.distanceTimeout

theorem reprices_settledItem : Basket.Reprices (r.calculator.settledItem shipment discount) :=
  fun item => (r.calculator.outcome shipment discount item).applyTo_eq item

/-- The items that a run stores are those of its basket, in new prices. -/
theorem lineItemsOf_settled_perm (filed : s.Filed) (fresh : ids.FreshFor s shipment.id)
    (settled : (r.settle (r.refreshBasket ids now shipment weight miles s) shipment miles discount
      s).2 = s') :
    (s'.lineItemsOf shipment.id).Perm
      ((r.refreshBasket ids now shipment weight miles s).items.map
        (r.calculator.settledItem shipment discount)) := by
  rw [← settled]
  exact lineItemsOf_settle_perm filed (Basket.nodup_ids filed fresh)
    (r.refreshBasket_grows ids now shipment weight miles s)

theorem staysInOrder_refreshBasket (filed : s.Filed) :
    Basket.StaysInOrder (r.refreshBasket ids now shipment weight miles s).items := by
  have ordered : Basket.StaysInOrder (s.lineItemsOf shipment.id) :=
    fun sit code => filed.pairwise_lineItemsOf.filter _
  exact Basket.StaysInOrder.refreshed ordered

/-- They are a basket with nothing to make and nothing to refresh. -/
theorem refreshBasket_settled (filed : s.Filed) (openCodes : r.calculator.rates.OpenBaseCodes)
    (fresh : ids.FreshFor s shipment.id)
    (settled : (r.settle (r.refreshBasket ids now shipment weight miles s) shipment miles discount
      s).2 = s') :
    r.refreshBasket ids' now' shipment weight miles s' =
      { items := s'.lineItemsOf shipment.id, created := [] } := by
  have filed' : s'.Filed := settled ▸ filed_settle filed
  have sameSits : s'.sitsOf shipment.id = s.sitsOf shipment.id := by
    rw [← settled, settle_store]
    rfl
  have upToDate : Basket.UpToDate r.calculator.rates weight miles (s.sitsOf shipment.id)
      (s'.lineItemsOf shipment.id) :=
    (Basket.upToDate_refreshed openCodes filed.nodup_sitsOf).of_perm reprices_settledItem
      (staysInOrder_refreshBasket filed) (lineItemsOf_settled_perm filed fresh settled)
      filed'.pairwise_lineItemsOf
  rw [refreshBasket, sameSits]
  exact Basket.refreshed_of_upToDate upToDate

/-- A settlement of what a run has stored leaves the store as it is and repeats the
report of the run. -/
theorem settle_settled (filed : s.Filed) (fresh : ids.FreshFor s shipment.id)
    (settled : (r.settle (r.refreshBasket ids now shipment weight miles s) shipment miles discount
      s) = (report, s')) :
    ∃ report', r.settle { items := s'.lineItemsOf shipment.id, created := [] }
        (r.charged shipment miles discount) miles discount s' = (report', s') ∧
      report'.Repeats report := by
  have stored : _ = s' := congrArg Prod.snd settled
  have told : _ = report := congrArg Prod.fst settled
  have filed' : s'.Filed := stored ▸ filed_settle filed
  have perm := lineItemsOf_settled_perm filed fresh stored
  have charged : s'.shipments.get? shipment.id = some (r.charged shipment miles discount) := by
    rw [← stored, settle_store, SortedMap.get?_insert, if_pos rfl]
  have unchanged : (r.settle { items := s'.lineItemsOf shipment.id, created := [] }
      (r.charged shipment miles discount) miles discount s').2 = s' := by
    refine settle_of_settled charged (fun item mem => (filed'.mem_lineItemsOf.1 mem).1) ?_
    intro item mem
    obtain ⟨old, _, rfl⟩ := List.mem_map.1 (perm.mem_iff.1 mem)
    exact Calculator.settledItem_settledItem
  refine ⟨_, Prod.ext rfl unchanged, ?_⟩
  rw [← told]
  refine settle_repeats rfl perm ?_
  rw [unchanged, stored]

/-- A recalculation that succeeds can be repeated at any time, with any ids, as long as
the planner gives the same miles: it succeeds again, makes nothing, leaves the store as
it is, and repeats the report. It does not matter how the first run came to the carrier
performance that it linked. -/
theorem recalculate_idempotent (filed : s.Filed) (openCodes : r.calculator.rates.OpenBaseCodes)
    (fresh : ids.FreshFor s id) (sameMiles : r.SameMiles planner s id)
    (h : r.recalculate ids now id s = .ok (report, s')) :
    ∃ report', { r with planner }.recalculate ids' now' id s' = .ok (report', s') ∧
      report'.Repeats report := by
  obtain ⟨shipment, loaded, ran⟩ := recalculate_eq_ok.1 h
  obtain ⟨priceable, weight, pickup, delivery, miles, discount, linked, s₁, weighed, from_, to_,
    answer, resolved, settled⟩ := run_eq_ok.1 ran
  obtain ⟨⟨groupingId, performanceId, links⟩, -⟩ := resolveDiscount_frame resolved
  obtain rfl : shipment.id = id := filed.shipments loaded
  have sameId : linked.id = shipment.id := resolveDiscount_id resolved
  have fresh₁ : ids.FreshFor s₁ linked.id := fresh.resolveDiscount resolved
  have filed₁ : s₁.Filed := (resolveDiscount_beside resolved).filed filed
  obtain ⟨report', again, repeats⟩ := settle_settled filed₁ fresh₁ settled
  have stored : _ = s' := congrArg Prod.snd settled
  -- The second run loads the shipment that the first has charged, and keeps its link.
  have loaded' : s'.shipments.get? shipment.id = some (r.charged linked miles discount) := by
    rw [← stored, settle_store, SortedMap.get?_insert, if_pos sameId.symm]
  have resolved' : { r with planner }.resolveDiscount ⟨ids' 0⟩ (r.charged linked miles discount)
      s' = .ok (discount, r.charged linked miles discount, s') := by
    obtain ⟨bookDate, pickupDate, key, performance, booked, picked, link, found, covers, rfl⟩ :=
      resolveDiscount_linked filed resolved
    have found' : s'.performances.get? key = some performance := by
      rw [← stored, settle_store]
      exact found
    exact resolveDiscount_of_linked booked picked link found' covers
  have basket : { r with planner }.refreshBasket ids' now' (r.charged linked miles discount)
      weight miles s' = { items := s'.lineItemsOf linked.id, created := [] } :=
    refreshBasket_settled filed₁ openCodes fresh₁ stored
  have answer' : planner.distance pickup delivery r.distanceTimeout = .ok miles := by
    rw [sameMiles shipment pickup delivery loaded from_ to_, answer]
  refine ⟨report', recalculate_eq_ok.2 ⟨_, loaded', run_eq_ok.2 ?_⟩, repeats⟩
  rw [links] at loaded' resolved' basket again ⊢
  refine ⟨priceable, weight, pickup, delivery, miles, discount, _, s', weighed, from_, to_,
    answer', resolved', ?_⟩
  rw [basket]
  exact again

/-- The first run links a carrier and makes seven items; the second asks a planner that
takes its time. -/
theorem recalculate_idempotent_sample :
    ∃ report s', Sample.recalculator.recalculate Sample.ids Sample.time (Sample.id 1)
        Sample.store = .ok (report, s') ∧ report.created.length = 7 ∧
      ∃ report', { Sample.recalculator with planner := fun _ _ => ⟨4000, .ok 100⟩ }.recalculate
          Sample.ids ⟨Sample.day 19001, 0, 0, by decide, by decide⟩ (Sample.id 1) s' =
            .ok (report', s') ∧
        report'.Repeats report := by
  have makes : (Sample.recalculator.recalculate Sample.ids Sample.time (Sample.id 1)
      Sample.store).toOption.map (·.1.created.length) = some 7 := by decide +kernel
  obtain ⟨⟨report, s'⟩, found, seven⟩ := Option.map_eq_some_iff.1 makes
  have ran := toOption_eq_some.1 found
  refine ⟨report, s', ran, seven, ?_⟩
  have filed : Sample.store.Filed := Store.filed_ofRecords (r := Sample.records) (by rfl)
  have openCodes : Sample.rates.OpenBaseCodes := by decide +kernel
  have fresh : Sample.ids.FreshFor Sample.store (Sample.id 1) :=
    ⟨by decide +kernel, by decide +kernel⟩
  refine recalculate_idempotent filed openCodes fresh (fun _ pickup delivery _ _ _ => ?_) ran
  have first : Sample.recalculator.planner.distance pickup delivery .fiveSeconds = .ok 100 :=
    Planner.distance_eq_ok rfl (by decide)
  exact (Planner.distance_eq_ok rfl (by decide)).trans first.symm

end Recalculator
end Haulage
