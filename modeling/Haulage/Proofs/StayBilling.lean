import Haulage.Proofs.BaseCharges
import Haulage.Proofs.StayCharges
import Haulage.Proofs.Units

/-! What a shipment is billed for its stays in storage. A stay that is over has one item for the
first day and one for the days after it, both at the shipment's weight and at the SIT's end of
the move. A stay that is not over is not billed: the items that it may have keep all but their
price. One SIT does not get in the way of another. -/
namespace Haulage

/-- The item bills the SIT's stay: the shipment's weight at the place of storage and, in
ten-thousandths as all quantities, so many further days. If it is invoiced, it is what it was. -/
structure Store.Bills (s : Store) (sit : Sit) (weight : Pounds) (further : Int)
    (item : LineItem) : Prop where
  invoiced : item.isInvoiced = true → s.lineItems.get? item.id = some item
  location : item.isInvoiced = false → item.location = sit.location.lineItemLocation
  weight : item.isInvoiced = false → item.quantity1 = .ofUnits weight.val
  further : item.isInvoiced = false → item.quantity2.val.toInt = further * 10000

namespace Basket
variable {scope : SitId × String → Prop} {items : List LineItem} {b : Basket} {sit : Sit}
  {days : Nat} {code : String} {item : LineItem} {key : SitId} {t : RateTable} {ids : IdSupply}
  {shipmentId : ShipmentId} {now : Timestamp} {weight : Pounds} {miles : Miles} {sits : List Sit}

theorem stay?_of_isSitItem (known : code ∈ [sitFirstDayCode, sitAdditionalDaysCode])
    (here : isSitItem sit code item) : item.stay? = some (sit.id, code) := by
  obtain ⟨tied, coded⟩ := isSitItem_eq_true.1 here
  exact LineItem.stay?_eq_some.2 ⟨tied, coded, known⟩

/-- Where a stay is charged once, its item that is up to date is the only one. -/
theorem Settled.filter_eq (settled : Settled items weight sit days code)
    (known : code ∈ [sitFirstDayCode, sitAdditionalDaysCode]) (once : ChargesOnce scope items)
    (distinct : (items.map LineItem.id).Nodup) :
    ∃ item, items.filter (isSitItem sit code) = [item] ∧
      refreshStay sit weight days item = item := by
  obtain ⟨item, found, same⟩ := settled
  rw [← List.head?_filter, List.head?_eq_some_iff] at found
  obtain ⟨rest, filtered⟩ := found
  refine ⟨item, ?_, same⟩
  cases rest with
  | nil => exact filtered
  | cons other rest =>
    have charges : ∀ a ∈ items.filter (isSitItem sit code),
        a ∈ items ∧ a.stay? = some (sit.id, code) := fun a mem =>
      ⟨List.mem_of_mem_filter mem, stay?_of_isSitItem known (List.mem_filter.1 mem).2⟩
    have apart := distinct.sublist ((List.filter_sublist (p := isSitItem sit code)).map _)
    rw [filtered] at charges apart
    obtain ⟨memItem, here⟩ := charges item List.mem_cons_self
    obtain ⟨memOther, there⟩ := charges other (List.mem_cons_of_mem _ List.mem_cons_self)
    have sameId := once.single item memItem other memOther _ here there
    simp [sameId] at apart

/-- So many days after the first are billed under the code. -/
def furtherDays (code : String) (days : Nat) : Nat :=
  if code = sitAdditionalDaysCode then days - 1 else 0

theorem toInt_quantity2_withStay (few : days < twoTo 32) :
    (withStay item sit weight days).quantity2.val.toInt =
      (furtherDays item.tariffCode days : Int) * 10000 := by
  have bound : twoTo 32 = 4294967296 := rfl
  have bound' : twoTo 63 = 9223372036854775808 := rfl
  have exact : (Int64.ofNat (days - 1)).toInt = (days - 1 : Nat) :=
    Int64.toInt_ofNat_of_lt (by omega)
  rw [withStay, furtherDays]
  split
  · rw [Quantity.toInt_ofUnits (by rw [Quantity.InRange, exact, bound']; omega), exact]
  · rfl

theorem bills_of_refreshed {s : Store} (few : days < twoTo 32)
    (current : refreshStay sit weight days item = item)
    (before : item.isInvoiced = true → s.lineItems.get? item.id = some item) :
    s.Bills sit weight (furtherDays item.tariffCode days) item := by
  have filled (opened : item.isInvoiced = false) : withStay item sit weight days = item := by
    rwa [refreshStay, opened, if_neg Bool.false_ne_true] at current
  refine ⟨before, fun opened => ?_, fun opened => ?_, fun opened => ?_⟩
  · rw [← filled opened]
    rfl
  · rw [← filled opened]
    rfl
  · have counted : (withStay item sit weight days).quantity2.val.toInt = _ :=
      toInt_quantity2_withStay few
    rwa [filled opened] at counted

/-- The item belongs to the SIT of this id. -/
def isTiedTo (key : SitId) (item : LineItem) : Bool := item.sitId = some key

theorem isTiedTo_eq_true : isTiedTo key item = true ↔ item.sitId = some key := by
  simp [isTiedTo]

theorem filter_isTiedTo_addMissing :
    (b.addMissing t ids shipmentId now).items.filter (isTiedTo key) =
      b.items.filter (isTiedTo key) := by
  unfold addMissing
  generalize t.missingBaseCategories b.items = categories
  induction categories generalizing b with
  | nil => rfl
  | cons category rest ih =>
    have untied : isTiedTo key (.base (b.nextId ids) shipmentId category now) = false := rfl
    rw [List.foldl_cons, ih, push, List.filter_append, List.filter_singleton, untied]
    exact List.append_nil _

theorem filter_isTiedTo_refreshBase :
    (b.refreshBase t weight miles).items.filter (isTiedTo key) = b.items.filter (isTiedTo key) := by
  have blind : isTiedTo key ∘ t.refreshBaseItem weight miles = isTiedTo key := by
    funext item
    have sameSit := (requantified_refreshBaseItem t weight miles item).sitId_eq
    simp only [Function.comp_apply, isTiedTo, sameSit]
  rw [refreshBase, List.filter_map, blind]
  refine (List.map_congr_left fun item mem => ?_).trans (List.map_id _)
  refine RateTable.refreshBaseItem_of_sit ?_
  rw [isTiedTo_eq_true.1 (List.mem_filter.1 mem).2]
  rfl

/-- Only the items of this SIT change. -/
theorem filter_isTiedTo_ensureSitItem (other : sit.id ≠ key) :
    (ensureSitItem ids shipmentId now weight sit days b code).items.filter (isTiedTo key) =
      b.items.filter (isTiedTo key) := by
  have apart {item : LineItem} (tied : item.sitId = some sit.id) : isTiedTo key item = false := by
    simp [isTiedTo, tied, other]
  unfold ensureSitItem
  split
  · refine filter_modifyFirst_of_disjoint fun item here => ?_
    have tied := (isSitItem_eq_true.1 here).1
    exact ⟨apart tied, apart ((requantified_refreshStay sit weight days item).sitId_eq.trans tied)⟩
  · rw [push, List.filter_append, List.filter_singleton, apart rfl]
    exact List.append_nil _

theorem filter_isTiedTo_ensureSits
    (lasting : ∀ sit ∈ sits, sit.id = key → sit.chargeableDays? = none) :
    (sits.foldl (ensureSit ids shipmentId now weight) b).items.filter (isTiedTo key) =
      b.items.filter (isTiedTo key) := by
  induction sits generalizing b with
  | nil => rfl
  | cons sit rest ih =>
    obtain ⟨here, lasting⟩ := List.forall_mem_cons.1 lasting
    rw [List.foldl_cons, ih lasting, ensureSit]
    split
    · rfl
    · next days completed =>
      have other : sit.id ≠ key := fun same => by
        rw [here same] at completed
        contradiction
      simp only [List.foldl_cons, List.foldl_nil, filter_isTiedTo_ensureSitItem other]

/-- The items of a SIT whose stay is not over are left as they are, and none is made. -/
theorem filter_isTiedTo_refreshed
    (lasting : ∀ sit ∈ sits, sit.id = key → sit.chargeableDays? = none) :
    (b.refreshed t ids shipmentId now weight miles sits).items.filter (isTiedTo key) =
      b.items.filter (isTiedTo key) := by
  rw [refreshed, filter_isTiedTo_ensureSits lasting, filter_isTiedTo_refreshBase,
    filter_isTiedTo_addMissing]

end Basket

theorem Sit.chargeableDays?_eq_some {sit : Sit} {days : Nat} :
    sit.chargeableDays? = some days ↔ ∃ start out, sit.actualStartDate = some start ∧
      sit.outDate = some out ∧ days = (start.daysTo out).toNat := by
  simp only [chargeableDays?, bind, Option.bind_eq_some_iff, pure, Option.some.injEq,
    exists_and_left, @eq_comm _ days]

theorem Sit.chargeableDays?_eq_none {sit : Sit} :
    sit.chargeableDays? = none ↔ sit.actualStartDate = none ∨ sit.outDate = none := by
  unfold chargeableDays?
  cases sit.actualStartDate <;> cases sit.outDate <;> simp

theorem Sit.chargeableDays?_lt {sit : Sit} {days : Nat}
    (completed : sit.chargeableDays? = some days) : days < twoTo 32 := by
  obtain ⟨start, out, -, -, rfl⟩ := chargeableDays?_eq_some.1 completed
  have bound : twoTo 32 = 4294967296 := rfl
  have first := start.first_le
  have last := out.le_last
  rw [Date.daysTo]
  omega

/-- How a shipment is billed for the stay of a SIT by what leads from `s` to `s'`. A stay that is
over is billed by one item for its first day and one for the days after it. One that is not over
has the items that it had, at other prices. -/
structure Store.StayBilled (s s' : Store) (id : ShipmentId) (weight : Pounds) (sit : Sit) :
    Prop where
  completed : ∀ start out days, sit.actualStartDate = some start → sit.outDate = some out →
    days = max (start.daysTo out) 0 →
    ∃ first additional further,
      (s'.lineItemsOf id).filter (Basket.isSitItem sit sitFirstDayCode) = [first] ∧
      (s'.lineItemsOf id).filter (Basket.isSitItem sit sitAdditionalDaysCode) = [additional] ∧
      s.Bills sit weight 0 first ∧ s.Bills sit weight further additional ∧
      further = max (days - 1) 0 ∧ 1 + further = max days 1
  lasting : sit.actualStartDate = none ∨ sit.outDate = none →
    ((s'.lineItemsOf id).filter (Basket.isTiedTo sit.id)).map LineItem.clearPrice =
      ((s.lineItemsOf id).filter (Basket.isTiedTo sit.id)).map LineItem.clearPrice

theorem Store.StayBilled.congr {s s₁ s' : Store} {id : ShipmentId} {weight : Pounds} {sit : Sit}
    (same : s₁.lineItems = s.lineItems) (billed : s₁.StayBilled s' id weight sit) :
    s.StayBilled s' id weight sit := by
  have move {further : Int} {item : LineItem} (bills : s₁.Bills sit weight further item) :
      s.Bills sit weight further item := { bills with invoiced := same ▸ bills.invoiced }
  have sameItems : s₁.lineItemsOf id = s.lineItemsOf id := by
    rw [lineItemsOf, same]
    rfl
  refine ⟨fun start out days began ended count => ?_, sameItems ▸ billed.lasting⟩
  obtain ⟨first, additional, further, alone, alone', bills, bills', counts⟩ :=
    billed.completed start out days began ended count
  exact ⟨first, additional, further, alone, alone', move bills, move bills', counts⟩

/-- No two line items of the shipment are tied to one SIT under one of the codes of stays. -/
def Store.StaysSingle (s : Store) (id : ShipmentId) : Prop :=
  Basket.ChargesOnce (fun _ => True) (s.lineItemsOf id)

theorem Store.StaysSingle.congr {s s' : Store} {id : ShipmentId} (single : s.StaysSingle id)
    (same : s'.lineItems = s.lineItems) : s'.StaysSingle id := by
  rw [StaysSingle, lineItemsOf, same]
  exact single

namespace Recalculator
variable {r : Recalculator} {ids : IdSupply} {now : Timestamp} {shipment : Shipment}
  {id : ShipmentId} {weight : Pounds} {miles : Miles} {discount : DiscountRate} {s s' : Store}
  {report : RecalculationReport} {sit : Sit} {days : Nat} {code : String}

section Settled
variable (filed : s.Filed) (fresh : ids.FreshFor s shipment.id)
  (settled : (r.settle (r.refreshBasket ids now shipment weight miles s) shipment miles discount
    s).2 = s')
include filed fresh settled

theorem bills_settle (single : s.StaysSingle shipment.id) (mem : sit ∈ s.sitsOf shipment.id)
    (completed : sit.chargeableDays? = some days)
    (known : code ∈ [sitFirstDayCode, sitAdditionalDaysCode]) :
    ∃ item, (s'.lineItemsOf shipment.id).filter (Basket.isSitItem sit code) = [item] ∧
      s.Bills sit weight (Basket.furtherDays code days) item := by
  have filed' : s'.Filed := settled ▸ filed_settle filed
  have upToDate : Basket.Settled (r.refreshBasket ids now shipment weight miles s).items weight
      sit days code :=
    (Basket.staySettled_ensureSits filed.nodup_sitsOf mem).settled completed known
  obtain ⟨old, alone, current⟩ := upToDate.filter_eq known
    (Basket.ChargesOnce.refreshed single fun _ _ _ => trivial) (Basket.nodup_ids filed fresh)
  obtain ⟨memOld, here⟩ := List.mem_filter.1 (alone ▸ List.mem_singleton_self old)
  set item := r.calculator.settledItem shipment discount old with repriced
  obtain ⟨amount, appliedRate, same⟩ :
      ∃ amount appliedRate, item = old.withPrice amount appliedRate := reprices_settledItem old
  have current' : Basket.refreshStay sit weight days item = item := by
    rw [same, Basket.refreshStay_withPrice, current]
  have code_ : item.tariffCode = code := by
    rw [same]
    exact (Basket.isSitItem_eq_true.1 here).2
  have few := Sit.chargeableDays?_lt completed
  refine ⟨item, ?_, code_ ▸ Basket.bills_of_refreshed few current' ?_⟩
  · rw [Basket.filter_isSitItem_reprice reprices_settledItem (staysInOrder_refreshBasket filed)
      (lineItemsOf_settled_perm filed fresh settled) filed'.pairwise_lineItemsOf]
    exact congrArg _ alone
  · intro invoiced
    have invoiced' : old.isInvoiced = true := by rwa [same] at invoiced
    rw [repriced, Calculator.settledItem_of_isInvoiced invoiced']
    exact grown_get?_of_isInvoiced filed (r.refreshBasket_grows ids now shipment weight miles s)
      memOld invoiced'

theorem filter_isTiedTo_settle (mem : sit ∈ s.sitsOf shipment.id)
    (lasting : sit.chargeableDays? = none) :
    ((s'.lineItemsOf shipment.id).filter (Basket.isTiedTo sit.id)).map LineItem.clearPrice =
      ((s.lineItemsOf shipment.id).filter (Basket.isTiedTo sit.id)).map LineItem.clearPrice := by
  have filed' : s'.Filed := settled ▸ filed_settle filed
  have same : (r.refreshBasket ids now shipment weight miles s).items.filter
      (Basket.isTiedTo sit.id) = (s.lineItemsOf shipment.id).filter (Basket.isTiedTo sit.id) := by
    refine Basket.filter_isTiedTo_refreshed fun other memOther sameId => ?_
    rwa [List.inj_on_of_nodup_map filed.nodup_sitsOf memOther mem sameId]
  have blind : Basket.isTiedTo sit.id ∘ r.calculator.settledItem shipment discount =
      Basket.isTiedTo sit.id := funext (reprices_settledItem.keeps fun _ _ _ => rfl)
  rw [Basket.filter_reprice reprices_settledItem blind (same ▸ filed.pairwise_lineItemsOf.filter _)
    (lineItemsOf_settled_perm filed fresh settled) filed'.pairwise_lineItemsOf, same, List.map_map]
  exact List.map_congr_left fun item _ => reprices_settledItem.keeps (fun _ _ _ => rfl) item

theorem stayBilled_settle (single : s.StaysSingle shipment.id)
    (mem : sit ∈ s.sitsOf shipment.id) : s.StayBilled s' shipment.id weight sit := by
  constructor
  · intro start out days began ended count
    have completed : sit.chargeableDays? = some days.toNat := by
      refine Sit.chargeableDays?_eq_some.2 ⟨start, out, began, ended, ?_⟩
      omega
    have item (code : String) (known : code ∈ [sitFirstDayCode, sitAdditionalDaysCode]) :=
      bills_settle filed fresh settled single mem completed known
    obtain ⟨first, alone, bills⟩ := item sitFirstDayCode (by decide)
    obtain ⟨additional, alone', bills'⟩ := item sitAdditionalDaysCode (by decide)
    refine ⟨first, additional, _, alone, alone', bills, bills', ?_⟩
    have codes : Basket.furtherDays sitAdditionalDaysCode days.toNat = days.toNat - 1 := if_pos rfl
    rw [codes]
    omega
  · exact fun open_ => filter_isTiedTo_settle filed fresh settled mem
      (Sit.chargeableDays?_eq_none.2 open_)

end Settled

theorem stayBilled_run (filed : s.Filed) (fresh : ids.FreshFor s shipment.id)
    (single : s.StaysSingle shipment.id) (h : r.run ids now shipment s = .ok (report, s')) :
    ∃ weight, shipment.netWeight = some weight ∧
      ∀ sit ∈ s'.sitsOf shipment.id, s.StayBilled s' shipment.id weight sit := by
  obtain ⟨_, weight, _, _, miles, discount, linked, s₁, weighed, _, _, _, resolved, settled⟩ :=
    run_eq_ok.1 h
  have stored : _ = s' := congrArg Prod.snd settled
  have beside := resolveDiscount_beside resolved
  have sameId : linked.id = shipment.id := resolveDiscount_id resolved
  have sameSits : s'.sitsOf linked.id = s₁.sitsOf linked.id := by
    rw [← stored, settle_store]
    rfl
  refine ⟨weight, weighed, fun sit mem => ?_⟩
  rw [← sameId] at single mem ⊢
  rw [sameSits] at mem
  have single₁ : s₁.StaysSingle linked.id := single.congr beside.lineItems
  exact (stayBilled_settle (beside.filed filed) (fresh.resolveDiscount resolved) stored single₁
    mem).congr beside.lineItems

/-- A recalculation that succeeds, of a shipment that has no item of a stay twice, bills each of
its stays that is over once and for the days stayed, and leaves the items of the others as they
were but for their prices. -/
theorem Recalculated.stayBilled (filed : s.Filed) (single : s.StaysSingle id)
    (h : r.Recalculated id s report s') :
    ∃ before weight, s.shipments.get? id = some before ∧ before.netWeight = some weight ∧
      ∀ sit ∈ s'.sitsOf id, s.StayBilled s' id weight sit := by
  cases h with
  | again fresh recalculated =>
    obtain ⟨shipment, loaded, ran⟩ := recalculate_eq_ok.1 recalculated
    obtain rfl := filed.shipments loaded
    obtain ⟨weight, weighed, billed⟩ := stayBilled_run filed fresh single ran
    exact ⟨shipment, weight, loaded, weighed, billed⟩
  | delivered fresh delivered =>
    obtain ⟨old, shipment, side, loaded, left, beside, demand, ran⟩ :=
      deliverAndPrice_eq_ok delivered
    obtain ⟨-, moved⟩ := Shipment.deliver_eq_ok left
    obtain rfl : shipment.id = id := by rw [moved, ← filed.shipments loaded]
    obtain ⟨weight, weighed, billed⟩ := stayBilled_run (beside.filed filed)
      (fresh.congr (demand filed) beside.lineItems) (single.congr beside.lineItems) ran
    rw [moved] at weighed
    exact ⟨old, weight, loaded, weighed, fun sit mem => (billed sit mem).congr beside.lineItems⟩

/-- A stay of three days is billed for the first one and for two more. The request that is tied
to another SIT, which the goods have not left, is as it was. -/
theorem Recalculated.stayBilled_sample :
    let waiting : Sit := { Sample.sit with id := Sample.id 2, outDate := none }
    let request := { Sample.crating with tariffCode := "185A", sitId := some (Sample.id 2) }
    let s := (Sample.store.saveSit waiting).saveLineItem request
    ∃ report s' first additional,
      Sample.recalculator.recalculate Sample.ids Sample.time (Sample.id 1) s = .ok (report, s') ∧
      (s'.lineItemsOf (Sample.id 1)).filter (Basket.isSitItem Sample.sit "185A") = [first] ∧
      (s'.lineItemsOf (Sample.id 1)).filter (Basket.isSitItem Sample.sit "185B") = [additional] ∧
      s.Bills Sample.sit ⟨4000⟩ 0 first ∧ s.Bills Sample.sit ⟨4000⟩ 2 additional ∧
      ((s'.lineItemsOf (Sample.id 1)).filter (Basket.isTiedTo waiting.id)).map
        LineItem.clearPrice = [request] := by
  intro waiting request s
  have filed : s.Filed := (Sample.filed_store.saveSit waiting).saveLineItem request
  have fresh : Sample.ids.FreshFor s (Sample.id 1) := by decide +kernel
  have alone : ∀ item ∈ s.lineItemsOf (Sample.id 1), item.stay?.isSome →
      item.id = Sample.id 3 := by
    decide +kernel
  have single : s.StaysSingle (Sample.id 1) := by
    refine ⟨fun a memA b memB stay chargesA chargesB => ?_, fun _ _ _ _ => trivial⟩
    rw [alone a memA (by rw [chargesA]; rfl), alone b memB (by rw [chargesB]; rfl)]
  have given : ∃ result, (Sample.recalculator.recalculate Sample.ids Sample.time (Sample.id 1)
      s).toOption = some result ∧ Sample.sit ∈ result.2.sitsOf (Sample.id 1) ∧
      waiting ∈ result.2.sitsOf (Sample.id 1) := by
    decide +kernel
  obtain ⟨⟨report, s'⟩, found, mem, memWaiting⟩ := given
  have recalculated := toOption_eq_some.1 found
  obtain ⟨before, weight, loaded, weighed, billed⟩ :=
    Recalculated.stayBilled filed single (.again fresh recalculated)
  obtain rfl : Sample.shipment = before := Option.some.inj loaded
  obtain rfl : ⟨4000⟩ = weight := Option.some.inj weighed
  obtain ⟨first, additional, further, once, once', bills, bills', count, -⟩ :=
    (billed Sample.sit mem).completed (Sample.day 19020) (Sample.day 19023) 3 rfl rfl (by decide)
  obtain rfl : further = 2 := count
  refine ⟨report, s', first, additional, recalculated, once, once', bills, bills', ?_⟩
  rw [(billed waiting memWaiting).lasting (.inr rfl)]
  decide +kernel

end Recalculator
end Haulage
