import Haulage.Proofs.ApprovalOrder
import Haulage.Proofs.Idempotence

/-! What a recalculation reports. The report lists every line item of the shipment and tells
apart those that were made; an item that the run looked at goes to one list by its outcome, or
to none if it is of a known code and waits for its approval. -/
namespace Haulage

namespace PricingOutcome

def isPriced : PricingOutcome → Bool
  | priced _ => true
  | _ => false

def isFailed : PricingOutcome → Bool
  | failed _ => true
  | _ => false

theorem isPriced_iff {o : PricingOutcome} : o.isPriced = true ↔ ∃ charge, o = .priced charge := by
  cases o <;> simp [isPriced]

theorem isFailed_iff {o : PricingOutcome} : o.isFailed = true ↔ ∃ e, o = .failed e := by
  cases o <;> simp [isFailed]

end PricingOutcome

namespace Calculator
variable {c : Calculator} {shipment : Shipment} {discount : DiscountRate} {item : LineItem}

/-- What decides on the outcome of an item of a delivered shipment. -/
inductive Judged (c : Calculator) (shipment : Shipment) (discount : DiscountRate)
    (item : LineItem) : PricingOutcome → Prop
  | invoiced : item.isInvoiced = true → Judged c shipment discount item .invoiced
  | unknown {e : Error} : item.isInvoiced = false → c.rates.items.get? item.tariffCode = none →
      c.lineItemCharge item shipment discount = .error e →
      Judged c shipment discount item (.failed e)
  | waiting {tariff : TariffItem} : item.isInvoiced = false →
      c.rates.items.get? item.tariffCode = some tariff → item.status.isPriceable = false →
      Judged c shipment discount item .untouched
  | empty {tariff : TariffItem} : item.isInvoiced = false →
      c.rates.items.get? item.tariffCode = some tariff → item.status.isPriceable = true →
      item.hasPricingBasis tariff = false → Judged c shipment discount item .unpriced
  | charged {tariff : TariffItem} {charge : FeeAndRate} : item.isInvoiced = false →
      c.rates.items.get? item.tariffCode = some tariff → item.status.isPriceable = true →
      item.hasPricingBasis tariff = true →
      c.lineItemCharge item shipment discount = .ok charge →
      Judged c shipment discount item (.priced charge)
  | refused {tariff : TariffItem} {e : Error} : item.isInvoiced = false →
      c.rates.items.get? item.tariffCode = some tariff → item.status.isPriceable = true →
      item.hasPricingBasis tariff = true →
      c.lineItemCharge item shipment discount = .error e →
      Judged c shipment discount item (.failed e)

theorem judged_outcome (delivered : shipment.status.isPriceable) :
    c.Judged shipment discount item (c.outcome shipment discount item) := by
  cases invoiced : item.isInvoiced with
  | true => exact outcome_eq_invoiced_iff.2 invoiced ▸ .invoiced invoiced
  | false =>
    cases known : c.rates.items.get? item.tariffCode with
    | none =>
      have unknown : c.rates.tariffItem item.tariffCode =
          .error (.notFound .tariffItem item.tariffCode) := by
        rw [RateTable.tariffItem, known, require]
      have outcome : c.outcome shipment discount item =
          .failed (.notFound .tariffItem item.tariffCode) := by simp [outcome, invoiced, unknown]
      rw [outcome]
      exact .unknown invoiced known (by rw [lineItemCharge, unknown]; rfl)
    | some tariff =>
      have found : c.rates.tariffItem item.tariffCode = .ok tariff := require_eq_ok.2 known
      cases approved : item.status.isPriceable with
      | false =>
        have outcome : c.outcome shipment discount item = .untouched := by
          simp [outcome, invoiced, found, pricingAction, approved]
        exact outcome ▸ .waiting invoiced known approved
      | true =>
        cases basis : item.hasPricingBasis tariff with
        | false =>
          have outcome : c.outcome shipment discount item = .unpriced :=
            outcome_of_empty found invoiced approved delivered basis
          exact outcome ▸ .empty invoiced known approved basis
        | true =>
          rcases outcome_of_basis found invoiced approved delivered basis with
            ⟨charge, charged, outcome⟩ | ⟨e, refused, outcome⟩
          · exact outcome ▸ .charged invoiced known approved basis charged
          · exact outcome ▸ .refused invoiced known approved basis refused

/-- The price that an item is left with does not change what decides on its outcome. -/
theorem judged_settledItem (delivered : shipment.status.isPriceable) :
    c.Judged shipment discount (c.settledItem shipment discount item)
      (c.outcome shipment discount item) := by
  have sameOutcome : c.outcome shipment discount (c.settledItem shipment discount item) =
      c.outcome shipment discount item := outcome_applyTo _
  exact sameOutcome ▸ judged_outcome delivered

namespace Judged
variable {o : PricingOutcome}

theorem eq_invoiced_iff (judged : c.Judged shipment discount item o) :
    o = .invoiced ↔ item.isInvoiced = true := by
  cases judged <;> simp [*]

theorem isFailed_iff (judged : c.Judged shipment discount item o) :
    o.isFailed = true ↔ item.isInvoiced = false ∧
      (c.rates.items.get? item.tariffCode = none ∨
        ∃ tariff, c.rates.items.get? item.tariffCode = some tariff ∧
          item.status.isPriceable = true ∧ item.hasPricingBasis tariff = true ∧
          ∃ e, c.lineItemCharge item shipment discount = .error e) := by
  cases judged <;> simp [*, PricingOutcome.isFailed]

theorem isPriced_iff (judged : c.Judged shipment discount item o) :
    o.isPriced = true ↔ item.isInvoiced = false ∧
      ∃ tariff, c.rates.items.get? item.tariffCode = some tariff ∧
        item.status.isPriceable = true ∧ item.hasPricingBasis tariff = true ∧
        ∃ charge, c.lineItemCharge item shipment discount = .ok charge := by
  cases judged <;> simp [*, PricingOutcome.isPriced]

theorem eq_unpriced_iff (judged : c.Judged shipment discount item o) :
    o = .unpriced ↔ item.isInvoiced = false ∧
      ∃ tariff, c.rates.items.get? item.tariffCode = some tariff ∧
        item.status.isPriceable = true ∧ item.hasPricingBasis tariff = false := by
  cases judged <;> simp [*]

theorem eq_untouched_iff (judged : c.Judged shipment discount item o) :
    o = .untouched ↔ item.isInvoiced = false ∧
      (c.rates.items.get? item.tariffCode).isSome ∧ item.status.isPriceable = false := by
  cases judged <;> simp [*]

theorem lineItemCharge_eq (judged : c.Judged shipment discount item o) :
    (∀ e, o = .failed e → c.lineItemCharge item shipment discount = .error e) ∧
      ∀ charge, o = .priced charge → c.lineItemCharge item shipment discount = .ok charge := by
  cases judged <;> simp [*]

end Judged

/-- The ids of the items with an outcome of one kind. -/
def idsOf (c : Calculator) (shipment : Shipment) (discount : DiscountRate)
    (kind : PricingOutcome → Bool) (items : List LineItem) : List LineItemId :=
  (items.filter fun item => kind (c.outcome shipment discount item)).map LineItem.id

variable {kind other : PricingOutcome → Bool} {items : List LineItem}

theorem filterMap_outcomes :
    (items.map fun item => (item, c.outcome shipment discount item)).filterMap
      (fun (item, outcome) => if kind outcome then some item.id else none) =
    c.idsOf shipment discount kind items := by
  unfold idsOf
  induction items with
  | nil => rfl
  | cons item rest ih =>
    cases holds : kind (c.outcome shipment discount item) with
    | true => simpa [holds] using ih
    | false => simpa [holds] using ih

theorem mem_idsOf (distinct : (items.map LineItem.id).Nodup) (mem : item ∈ items) :
    item.id ∈ c.idsOf shipment discount kind items ↔
      kind (c.outcome shipment discount item) = true := by
  rw [idsOf, List.mem_map]
  constructor
  · rintro ⟨same, member, sameId⟩
    obtain ⟨memSame, holds⟩ := List.mem_filter.1 member
    obtain rfl := List.inj_on_of_nodup_map distinct memSame mem sameId
    exact holds
  · exact fun holds => ⟨item, List.mem_filter.2 ⟨mem, holds⟩, rfl⟩

theorem idsOf_subset : c.idsOf shipment discount kind items ⊆ items.map LineItem.id :=
  List.map_subset _ (List.filter_subset_self _)

theorem nodup_idsOf (distinct : (items.map LineItem.id).Nodup) :
    (c.idsOf shipment discount kind items).Nodup :=
  distinct.sublist (List.filter_sublist.map _)

/-- Kinds that exclude each other have no id in common. -/
theorem disjoint_idsOf (distinct : (items.map LineItem.id).Nodup)
    (exclusive : ∀ o, kind o = true → other o = false) :
    (c.idsOf shipment discount kind items).Disjoint (c.idsOf shipment discount other items) := by
  intro id mem memOther
  obtain ⟨item, memItem, rfl⟩ := List.mem_map.1 mem
  have holds := (mem_idsOf distinct (List.mem_of_mem_filter memItem)).1 mem
  have holds' := (mem_idsOf distinct (List.mem_of_mem_filter memItem)).1 memOther
  rw [exclusive _ holds] at holds'
  contradiction

end Calculator

namespace RecalculationReport

/-- The line items among the failures. -/
def failedItems (report : RecalculationReport) : List LineItemId :=
  report.failures.filterMap PricingFailure.lineItemId

/-- How a report accounts for a line item as it is stored, with the price that the run has left
it and in the quantities that the run has given it. -/
structure Places (report : RecalculationReport) (c : Calculator) (shipment : Shipment)
    (discount : DiscountRate) (before : SortedMap LineItemId LineItem) (item : LineItem) : Prop where
  skipped : item.id ∈ report.skippedInvoiced ↔ item.isInvoiced = true
  skippedAsWas : item.id ∈ report.skippedInvoiced → before.get? item.id = some item
  failed : item.id ∈ report.failedItems ↔ item.isInvoiced = false ∧
    (c.rates.items.get? item.tariffCode = none ∨
      ∃ tariff, c.rates.items.get? item.tariffCode = some tariff ∧
        item.status.isPriceable = true ∧ item.hasPricingBasis tariff = true ∧
        ∃ e, c.lineItemCharge item shipment discount = .error e)
  failedFor : ∀ failure ∈ report.failures, failure.lineItemId = some item.id →
    failure.tariffCode = item.tariffCode ∧
      c.lineItemCharge item shipment discount = .error failure.reason
  failedCleared : item.id ∈ report.failedItems → item.amount = none ∧ item.appliedRate = none
  priced : item.id ∈ report.priced ↔ item.isInvoiced = false ∧
    ∃ tariff, c.rates.items.get? item.tariffCode = some tariff ∧
      item.status.isPriceable = true ∧ item.hasPricingBasis tariff = true ∧
      ∃ charge, c.lineItemCharge item shipment discount = .ok charge
  pricedAt : item.id ∈ report.priced →
    ∃ charge, c.lineItemCharge item shipment discount = .ok charge ∧
      item.amount = some charge.fee ∧ item.appliedRate = some charge.rate
  unpriced : item.id ∈ report.unpriced ↔ item.isInvoiced = false ∧
    ∃ tariff, c.rates.items.get? item.tariffCode = some tariff ∧
      item.status.isPriceable = true ∧ item.hasPricingBasis tariff = false
  unpricedCleared : item.id ∈ report.unpriced → item.amount = none ∧ item.appliedRate = none
  untouched : (item.id ∉ report.skippedInvoiced ∧ item.id ∉ report.failedItems ∧
      item.id ∉ report.priced ∧ item.id ∉ report.unpriced) ↔
    item.isInvoiced = false ∧ (c.rates.items.get? item.tariffCode).isSome ∧
      item.status.isPriceable = false
  untouchedPrice : item.isInvoiced = false → (c.rates.items.get? item.tariffCode).isSome →
    item.status.isPriceable = false →
    ∃ old, before.get? item.id = some old ∧ old.Requantified item

/-- A report accounts for every line item of the shipment, where a run leads from the table
`before` to the table `after`. -/
structure Accounts (report : RecalculationReport) (c : Calculator) (shipment : Shipment)
    (discount : DiscountRate) (before after : SortedMap LineItemId LineItem) : Prop where
  stored : ∀ item, item ∈ report.lineItems ↔
    after.get? item.id = some item ∧ item.shipmentId = shipment.id
  ordered : report.lineItems.Pairwise (Precedes LineItem.createdAt LineItem.id)
  earlier : ∀ id old, before.get? id = some old → old.shipmentId = shipment.id →
    ∃ item ∈ report.lineItems, item.id = id
  createdOnce : report.created.Nodup
  created : ∀ id, id ∈ report.created ↔ (after.get? id).isSome ∧ before.get? id = none
  onePlace : (report.priced ++ report.unpriced ++ report.skippedInvoiced ++
    report.failedItems).Nodup
  listed : report.priced ++ report.unpriced ++ report.skippedInvoiced ++ report.failedItems ⊆
    report.lineItems.map LineItem.id
  places : ∀ item ∈ report.lineItems, report.Places c shipment discount before item

end RecalculationReport

namespace Recalculator
variable {r : Recalculator} {ids : IdSupply} {now : Timestamp} {shipment : Shipment}
  {id : ShipmentId} {weight : Pounds} {miles : Miles} {discount : DiscountRate}
  {basket : Basket} {s s' : Store} {report : RecalculationReport} {item : LineItem}

theorem settle_priced : (r.settle basket shipment miles discount s).1.priced =
    r.calculator.idsOf (r.charged shipment miles discount) discount
      PricingOutcome.isPriced basket.items := by
  rw [← Calculator.filterMap_outcomes]
  rfl

theorem settle_unpriced : (r.settle basket shipment miles discount s).1.unpriced =
    r.calculator.idsOf (r.charged shipment miles discount) discount (· = .unpriced) basket.items := by
  rw [← Calculator.filterMap_outcomes]
  rfl

theorem settle_skippedInvoiced : (r.settle basket shipment miles discount s).1.skippedInvoiced =
    r.calculator.idsOf (r.charged shipment miles discount) discount (· = .invoiced) basket.items := by
  rw [← Calculator.filterMap_outcomes]
  rfl

theorem lineItemId_of_mem_linehaul {failure : PricingFailure}
    (mem : failure ∈ (r.linehaul shipment miles discount).2) : failure.lineItemId = none := by
  unfold linehaul at mem
  split at mem
  · contradiction
  · rw [List.mem_singleton.1 mem]

theorem settle_failedItems : (r.settle basket shipment miles discount s).1.failedItems =
    r.calculator.idsOf (r.charged shipment miles discount) discount PricingOutcome.isFailed
      basket.items := by
  have own : (r.linehaul shipment miles discount).2.filterMap PricingFailure.lineItemId = [] :=
    List.filterMap_eq_nil_iff.2 fun _ => lineItemId_of_mem_linehaul
  rw [RecalculationReport.failedItems, settle_failures_eq, List.filterMap_append, own,
    List.nil_append, List.filterMap_filterMap, ← Calculator.filterMap_outcomes, List.filterMap_map]
  refine List.filterMap_congr fun item _ => ?_
  show (PricingOutcome.failure? item _).bind _ = if PricingOutcome.isFailed _ then _ else _
  cases r.calculator.outcome (r.charged shipment miles discount) discount item <;> rfl

section Grown
variable (delivered : shipment.status.isPriceable) (filed : s.Filed)
  (distinct : (basket.items.map LineItem.id).Nodup)
  (grows : Basket.Grows ids id now { items := s.lineItemsOf id, created := [] } basket)
include delivered filed distinct grows

/-- An item of the basket is in the list of its outcome, and is left with the price of it. -/
theorem places_settle {old : LineItem} (mem : old ∈ basket.items) :
    (r.settle basket shipment miles discount s).1.Places r.calculator
      (r.charged shipment miles discount) discount s.lineItems
      (r.calculator.settledItem (r.charged shipment miles discount) discount old) := by
  set after := r.charged shipment miles discount with charged
  set item := r.calculator.settledItem after discount old with settled
  have sameId : item.id = old.id := settledItem_id old
  have judged : r.calculator.Judged after discount item
      (r.calculator.outcome after discount old) := Calculator.judged_settledItem delivered
  have skipped : item.id ∈ (r.settle basket shipment miles discount s).1.skippedInvoiced ↔
      r.calculator.outcome after discount old = .invoiced := by
    rw [settle_skippedInvoiced, sameId, Calculator.mem_idsOf distinct mem, decide_eq_true_iff]
  have failed : item.id ∈ (r.settle basket shipment miles discount s).1.failedItems ↔
      (r.calculator.outcome after discount old).isFailed = true := by
    rw [settle_failedItems, sameId, Calculator.mem_idsOf distinct mem]
  have priced : item.id ∈ (r.settle basket shipment miles discount s).1.priced ↔
      (r.calculator.outcome after discount old).isPriced = true := by
    rw [settle_priced, sameId, Calculator.mem_idsOf distinct mem]
  have unpriced : item.id ∈ (r.settle basket shipment miles discount s).1.unpriced ↔
      r.calculator.outcome after discount old = .unpriced := by
    rw [settle_unpriced, sameId, Calculator.mem_idsOf distinct mem, decide_eq_true_iff]
  constructor
  case skipped => exact skipped.trans judged.eq_invoiced_iff
  case skippedAsWas =>
    intro listed
    have invoiced : old.isInvoiced = true := Calculator.outcome_eq_invoiced_iff.1 (skipped.1 listed)
    rw [settled, Calculator.settledItem_of_isInvoiced invoiced]
    exact grown_get?_of_isInvoiced filed grows mem invoiced
  case failed => exact failed.trans judged.isFailed_iff
  case failedFor =>
    intro failure listed about
    rw [settle_failures_eq, List.mem_append, List.mem_filterMap] at listed
    rcases listed with own | ⟨other, memOther, entry⟩
    · rw [lineItemId_of_mem_linehaul own] at about
      contradiction
    · obtain ⟨e, outcome, rfl⟩ := PricingOutcome.failure?_eq_some.1 entry
      obtain rfl : other = old :=
        List.inj_on_of_nodup_map distinct memOther mem ((Option.some.inj about).trans sameId)
      exact ⟨(PricingOutcome.applyTo_tariffCode _ _).symm, judged.lineItemCharge_eq.1 e outcome⟩
  case failedCleared =>
    intro listed
    obtain ⟨e, outcome⟩ := PricingOutcome.isFailed_iff.1 (failed.1 listed)
    rw [settled, Calculator.settledItem, outcome]
    exact ⟨rfl, rfl⟩
  case priced => exact priced.trans judged.isPriced_iff
  case pricedAt =>
    intro listed
    obtain ⟨charge, outcome⟩ := PricingOutcome.isPriced_iff.1 (priced.1 listed)
    refine ⟨charge, judged.lineItemCharge_eq.2 charge outcome, ?_⟩
    rw [settled, Calculator.settledItem, outcome]
    exact ⟨rfl, rfl⟩
  case unpriced => exact unpriced.trans judged.eq_unpriced_iff
  case unpricedCleared =>
    intro listed
    rw [settled, Calculator.settledItem, unpriced.1 listed]
    exact ⟨rfl, rfl⟩
  case untouched =>
    rw [← judged.eq_untouched_iff, skipped, failed, priced, unpriced]
    cases r.calculator.outcome after discount old <;>
      simp [PricingOutcome.isFailed, PricingOutcome.isPriced]
  case untouchedPrice =>
    intro opened known waiting
    have outcome := judged.eq_untouched_iff.2 ⟨opened, known, waiting⟩
    have asDrawn : item = old := by rw [settled, Calculator.settledItem, outcome]; rfl
    rcases grows.origin mem with ⟨before, memBefore, requantified⟩ | ⟨_, _, made⟩
    · refine ⟨before, ?_, asDrawn ▸ requantified⟩
      rw [sameId, requantified.id_eq]
      exact (filed.mem_lineItemsOf.1 memBefore).1
    · rw [asDrawn, made.status_eq] at waiting
      contradiction

omit delivered filed grows in
theorem nodup_settle_lists : ((r.settle basket shipment miles discount s).1.priced ++
    (r.settle basket shipment miles discount s).1.unpriced ++
    (r.settle basket shipment miles discount s).1.skippedInvoiced ++
    (r.settle basket shipment miles discount s).1.failedItems).Nodup := by
  rw [settle_priced, settle_unpriced, settle_skippedInvoiced, settle_failedItems]
  simp only [List.nodup_append', List.disjoint_append_left, Calculator.nodup_idsOf distinct,
    true_and]
  refine ⟨⟨?_, ?_, ?_⟩, ⟨?_, ?_⟩, ?_⟩
  all_goals
    refine Calculator.disjoint_idsOf distinct fun o holds => ?_
    cases o <;> simp_all [PricingOutcome.isPriced, PricingOutcome.isFailed]

omit delivered in
/-- An id is drawn exactly if a line item is stored under it after the settlement and none was
before. -/
theorem mem_created_iff (sameId : shipment.id = id)
    (created : ∀ key ∈ basket.created, s.lineItems.get? key = none) {key : LineItemId} :
    key ∈ basket.created ↔
      ((r.settle basket shipment miles discount s).2.lineItems.get? key).isSome ∧
        s.lineItems.get? key = none := by
  subst sameId
  constructor
  · intro mem
    have drawn : key ∈ basket.items.map LineItem.id := by
      rw [grows.ids_eq rfl]
      exact List.mem_append_right _ mem
    obtain ⟨item, memItem, rfl⟩ := List.mem_map.1 drawn
    rw [settle_get?_of_grown filed distinct grows memItem]
    exact ⟨rfl, created _ mem⟩
  · rintro ⟨present, absent⟩
    obtain ⟨item, stored⟩ := Option.isSome_iff_exists.1 present
    rcases settle_get?_origin filed grows stored with ⟨old, memOld, rfl, _⟩ | ⟨before, _⟩
    · have drawn := List.mem_map_of_mem (f := LineItem.id) memOld
      rw [grows.ids_eq rfl] at drawn
      refine (List.mem_append.1 drawn).resolve_left fun earlier => ?_
      obtain ⟨before, memBefore, same⟩ := List.mem_map.1 earlier
      rw [← same, (filed.mem_lineItemsOf.1 memBefore).1] at absent
      contradiction
    · rw [before] at absent
      contradiction

theorem accounts_settle (sameId : shipment.id = id)
    (created : ∀ key ∈ basket.created, s.lineItems.get? key = none) :
    (r.settle basket shipment miles discount s).1.Accounts r.calculator
      (r.charged shipment miles discount) discount s.lineItems
      (r.settle basket shipment miles discount s).2.lineItems := by
  subst sameId
  have filed' : (r.settle basket shipment miles discount s).2.Filed := filed_settle filed
  have listed : (r.settle basket shipment miles discount s).1.lineItems.Perm
      (basket.items.map (r.calculator.settledItem shipment discount)) :=
    lineItemsOf_settle_perm filed distinct grows
  have sameIds : (basket.items.map (r.calculator.settledItem shipment discount)).map LineItem.id =
      basket.items.map LineItem.id := by
    rw [List.map_map]
    exact List.map_congr_left fun item _ => settledItem_id item
  constructor
  case stored => exact fun item => filed'.mem_lineItemsOf
  case ordered => exact filed'.pairwise_lineItemsOf
  case earlier =>
    intro key old stored owner
    obtain rfl : old.id = key := filed.lineItems stored
    obtain ⟨item, mem, requantified⟩ := grows.kept (filed.mem_lineItemsOf.2 ⟨stored, owner⟩)
    refine ⟨_, listed.mem_iff.2 (List.mem_map_of_mem mem), ?_⟩
    rw [settledItem_id, requantified.id_eq]
  case createdOnce =>
    rw [grows.ids_eq rfl] at distinct
    exact (List.nodup_append.1 distinct).2.1
  case created => exact fun key => mem_created_iff filed distinct grows rfl created
  case onePlace => exact nodup_settle_lists distinct
  case listed =>
    rw [settle_priced, settle_unpriced, settle_skippedInvoiced, settle_failedItems]
    simp only [List.append_subset]
    refine ⟨⟨⟨?_, ?_⟩, ?_⟩, ?_⟩
    all_goals
      refine List.Subset.trans Calculator.idsOf_subset ?_
      rw [← sameIds]
      exact (listed.map _).symm.subset
  case places =>
    intro item mem
    obtain ⟨old, memOld, rfl⟩ := List.mem_map.1 (listed.mem_iff.1 mem)
    exact places_settle delivered filed distinct grows memOld

end Grown

/-- A recalculation that succeeds with new ids accounts for every line item of the shipment, at
the discount of the performance that the shipment is linked to. -/
theorem recalculate_accounts (filed : s.Filed) (fresh : ids.FreshFor s id)
    (h : r.recalculate ids now id s = .ok (report, s')) :
    ∃ shipment discount, s'.shipments.get? id = some shipment ∧
      s'.shipmentDiscount shipment = .ok discount ∧ report.shipmentId = id ∧
      report.Accounts r.calculator shipment discount s.lineItems s'.lineItems := by
  obtain ⟨shipment, loaded, ran⟩ := recalculate_eq_ok.1 h
  obtain ⟨priceable, weight, _, _, miles, discount, linked, s₁, _, _, _, _, resolved, settled⟩ :=
    run_eq_ok.1 ran
  obtain rfl : shipment.id = id := filed.shipments loaded
  have beside := resolveDiscount_beside resolved
  have filed₁ : s₁.Filed := beside.filed filed
  have fresh₁ : ids.FreshFor s₁ linked.id := fresh.resolveDiscount resolved
  have sameId : linked.id = shipment.id := resolveDiscount_id resolved
  have delivered : linked.status.isPriceable := by
    obtain ⟨⟨_, _, links⟩, -⟩ := resolveDiscount_frame resolved
    rw [links]
    exact priceable
  have accounts : (r.settle (r.refreshBasket ids now linked weight miles s₁) linked miles discount
      s₁).1.Accounts r.calculator (r.charged linked miles discount) discount s₁.lineItems _ :=
    accounts_settle delivered filed₁ (Basket.nodup_ids filed₁ fresh₁)
      (r.refreshBasket_grows ids now linked weight miles s₁) rfl
      (fun _ mem => Basket.get?_of_mem_created fresh₁ mem)
  have told : _ = report := congrArg Prod.fst settled
  have stored : _ = s' := congrArg Prod.snd settled
  rw [told, stored, beside.lineItems] at accounts
  refine ⟨r.charged linked miles discount, discount, ?_, ?_, ?_, accounts⟩
  · rw [← stored, settle_store, SortedMap.get?_insert, if_pos sameId.symm]
  · obtain ⟨_, _, key, performance, _, _, link, found, _, rfl⟩ := resolveDiscount_linked filed resolved
    refine Store.shipmentDiscount_eq_ok.2 ⟨key, performance, link, ?_, rfl⟩
    rw [← stored, settle_store]
    exact found
  · rw [← told, ← sameId]
    rfl

/-- Eleven items: three are priced, four have a code that the tariff lacks, two are invoiced, an
approved one has nothing to price, and a request waits. -/
theorem recalculate_accounts_sample :
    let empty := { Sample.crating with id := Sample.id 4, status := .approved, quantity1 := .zero }
    let s := (Sample.store.saveLineItem Sample.crating).saveLineItem empty
    ∃ report s', Sample.recalculator.recalculate Sample.ids Sample.time (Sample.id 1) s =
        .ok (report, s') ∧
      report.lineItems.length = 11 ∧ report.priced.length = 3 ∧ report.failedItems.length = 4 ∧
      report.skippedInvoiced.length = 2 ∧ report.unpriced = [Sample.id 4] ∧
      ∃ shipment discount, s'.shipmentDiscount shipment = .ok discount ∧
        report.Accounts Sample.recalculator.calculator shipment discount s.lineItems s'.lineItems := by
  intro empty s
  have lists : (Sample.recalculator.recalculate Sample.ids Sample.time (Sample.id 1)
      s).toOption.map (fun done => (done.1.lineItems.length, done.1.priced.length,
        done.1.failedItems.length, done.1.skippedInvoiced.length, done.1.unpriced)) =
      some (11, 3, 4, 2, [Sample.id 4]) := by
    decide +kernel
  obtain ⟨⟨report, s'⟩, found, counts⟩ := Option.map_eq_some_iff.1 lists
  simp only [Prod.mk.injEq] at counts
  obtain ⟨listed, priced, failed, skipped, unpriced⟩ := counts
  have ran := toOption_eq_some.1 found
  have filed : s.Filed := (Sample.filed_store.saveLineItem _).saveLineItem _
  have fresh : Sample.ids.FreshFor s (Sample.id 1) := ⟨by decide +kernel, by decide +kernel⟩
  obtain ⟨shipment, discount, -, link, -, accounts⟩ := recalculate_accounts filed fresh ran
  exact ⟨report, s', ran, listed, priced, failed, skipped, unpriced, shipment, discount, link,
    accounts⟩

end Recalculator
end Haulage
