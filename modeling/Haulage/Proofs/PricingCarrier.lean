import Haulage.Proofs.Accounting
import Haulage.Proofs.CarrierChoice
import Haulage.Proofs.Groupings.Index
import Haulage.Proofs.LinehaulCharge

/-! The carrier whose discount a recalculation prices by. It is the one that the shipment is
linked to, as long as that performance is stored and covers the shipment's dates; else the best
performance of the shipment's grouping, to which the shipment is linked then. A shipment for
which there is neither is not priced. -/
namespace Haulage

namespace Shipment

/-- The performance covers the shipment's book date and pickup date. -/
def CoveredBy (shipment : Shipment) (p : CarrierPerformance) : Prop :=
  ∃ bookDate pickupDate, shipment.bookDate = some bookDate ∧
    shipment.requestedPickupDate = some pickupDate ∧ p.Covers bookDate pickupDate

end Shipment

/-- The shipment is linked to the performance, which is stored and covers its dates. -/
structure Store.Links (s : Store) (shipment : Shipment) (p : CarrierPerformance) : Prop where
  link : shipment.performanceId = some p.id
  stored : s.performances.get? p.id = some p
  covers : shipment.CoveredBy p

/-- The grouping stands under the rate area that the shipment leaves, the region that it goes to
and the code of service. -/
structure Selector.Groups (c : Selector) (s : Store) (shipment : Shipment) (g : Grouping) :
    Prop where
  origin : ∃ pickup, shipment.pickupAddress = some pickup ∧
    c.rates.rateArea pickup.postalCode = .ok g.key.sourceRateArea
  destination : ∃ delivery, shipment.deliveryAddress = some delivery ∧
    c.rates.region delivery.postalCode = .ok g.key.destinationRegion
  service : g.key.codeOfService = c.codeOfService
  kept : s.KeepsUnder g.key g

/-- Of the performances in the shipment's grouping that may be chosen for its dates this one
goes before all others. -/
structure Selector.Chooses (c : Selector) (s : Store) (shipment : Shipment) (g : Grouping)
    (p : CarrierPerformance) : Prop where
  groups : c.Groups s shipment g
  awards : ∃ bookDate pickupDate, shipment.bookDate = some bookDate ∧
    shipment.requestedPickupDate = some pickupDate ∧ s.Awards g.id bookDate pickupDate p

/-- The item has the price that its outcome at the discount leaves it. It is without one only if
it has nothing to charge for, or if its charge fails, as that of an unknown code does. -/
inductive Calculator.PricedAt (c : Calculator) (shipment : Shipment) (discount : DiscountRate)
    (item : LineItem) : Prop
  | charged {charge : FeeAndRate} : c.Judged shipment discount item (.priced charge) →
      c.lineItemCharge item shipment discount = .ok charge → item.PricedAs (some charge) →
      PricedAt c shipment discount item
  | empty : c.Judged shipment discount item .unpriced → item.PricedAs none →
      PricedAt c shipment discount item
  | failed {e : Error} : c.Judged shipment discount item (.failed e) →
      c.lineItemCharge item shipment discount = .error e → item.PricedAs none →
      PricedAt c shipment discount item

/-- The charges of the shipment, and of its line items that are neither invoiced nor waiting for
their approval, are those at this discount. -/
structure Recalculator.ChargesAt (r : Recalculator) (s : Store) (shipment : Shipment)
    (discount : DiscountRate) : Prop where
  linehaul : ∃ pickup delivery miles, shipment.pickupAddress = some pickup ∧
    shipment.deliveryAddress = some delivery ∧
    r.planner.distance pickup delivery r.distanceTimeout = .ok miles ∧
    shipment.linehaulCharge = (r.calculator.shipmentCharge shipment miles discount).toOption
  lineItems : ∀ item ∈ s.lineItemsOf shipment.id, item.isInvoiced = false →
    item.status.isPriceable → r.calculator.PricedAt shipment discount item

namespace Selector
variable {c : Selector} {fresh : GroupingId} {shipment : Shipment} {s s' : Store} {g : Grouping}
  {key : GroupingKey} {p : CarrierPerformance} {a : Assignment}

theorem groupingKeyFor_eq_ok : c.groupingKeyFor shipment = .ok key ↔
    (∃ pickup, shipment.pickupAddress = some pickup ∧
      c.rates.rateArea pickup.postalCode = .ok key.sourceRateArea) ∧
    (∃ delivery, shipment.deliveryAddress = some delivery ∧
      c.rates.region delivery.postalCode = .ok key.destinationRegion) ∧
    key.codeOfService = c.codeOfService := by
  simp only [groupingKeyFor, RateTable.groupingKey, bind_eq_ok, pure, Except.pure,
    Except.ok.injEq, Shipment.requirePickupAddress_eq_ok, Shipment.requireDeliveryAddress_eq_ok]
  constructor
  · rintro ⟨pickup, from_, delivery, to_, area, origin, region, destination, rfl⟩
    exact ⟨⟨pickup, from_, origin⟩, ⟨delivery, to_, destination⟩, rfl⟩
  · rintro ⟨⟨pickup, from_, origin⟩, ⟨delivery, to_, destination⟩, service⟩
    exact ⟨pickup, from_, delivery, to_, _, origin, _, destination, service ▸ rfl⟩

theorem groups_iff :
    c.Groups s shipment g ↔ c.groupingKeyFor shipment = .ok g.key ∧ s.KeepsUnder g.key g := by
  rw [groupingKeyFor_eq_ok]
  exact ⟨fun ⟨origin, destination, service, kept⟩ => ⟨⟨origin, destination, service⟩, kept⟩,
    fun ⟨⟨origin, destination, service⟩, kept⟩ => ⟨origin, destination, service, kept⟩⟩

/-- The grouping that an assignment finds or makes stands under its key. -/
theorem keepsUnder_of_fetched (filed : s.Filed) (indexed : s.Indexed)
    (h : fetchOrCreateGrouping Store.groupingShelf key fresh s = .ok (g, s')) :
    g.key = key ∧ s'.KeepsUnder g.key g ∧ s'.Filed := by
  rcases Store.fetchOrCreateGrouping_eq_ok h with ⟨found, rfl⟩ | ⟨rfl, inserted⟩
  · obtain ⟨-, sameKey⟩ := (indexed.groupingByKey?_eq_some filed.groupings).1 found
    rw [sameKey]
    exact ⟨rfl, filed.groupingByKey?_eq_some.1 found, filed⟩
  · refine ⟨rfl, ⟨?_, ?_⟩, filed.insertGrouping inserted⟩
    · obtain ⟨-, rfl⟩ := Store.insertGrouping_iff.1 inserted
      rw [SortedMap.get?_insert, if_pos rfl]
    · rw [Store.get?_insertGrouping inserted, if_pos rfl]

theorem assignCarrier_chooses (filed : s.Filed) (indexed : s.Indexed)
    (h : c.assignCarrier fresh shipment s = .ok a) :
    ∃ g, c.Chooses a.store shipment g a.performance ∧
      a.shipment = { shipment with
        groupingId := some g.id, performanceId := some a.performance.id } := by
  obtain ⟨key, keyed, h⟩ := bind_eq_ok.1 h
  obtain ⟨⟨g, side⟩, fetched, h⟩ := bind_eq_ok.1 h
  obtain ⟨bookDate, booked, h⟩ := bind_eq_ok.1 h
  obtain ⟨pickupDate, picked, h⟩ := bind_eq_ok.1 h
  obtain ⟨performance, selected, h⟩ := bind_eq_ok.1 h
  obtain rfl := Except.ok.inj h
  obtain ⟨rfl, kept, filed'⟩ := keepsUnder_of_fetched filed indexed fetched
  refine ⟨g, ⟨groups_iff.2 ⟨keyed, kept⟩, bookDate, pickupDate, ?_, ?_, ?_⟩, rfl⟩
  · exact Shipment.requireBookDate_eq_ok.1 booked
  · exact Shipment.requirePickupDate_eq_ok.1 picked
  · exact filed'.selectForGrouping_eq_ok.1 selected

end Selector

section SameCarriers
variable {s s' : Store} {id : GroupingId} {bookDate pickupDate : Date} {key : GroupingKey}
  {g : Grouping} {p : CarrierPerformance} {c : Selector} {shipment : Shipment}

theorem Store.SameCarriers.eligible_iff (same : s.SameCarriers s') :
    s'.Eligible id bookDate pickupDate p ↔ s.Eligible id bookDate pickupDate p := by
  constructor
  · rintro ⟨stored, grouping, covers, enrolled⟩
    exact ⟨same.performances ▸ stored, grouping, covers, same.carriers ▸ enrolled⟩
  · rintro ⟨stored, grouping, covers, enrolled⟩
    exact ⟨same.performances.symm ▸ stored, grouping, covers, same.carriers.symm ▸ enrolled⟩

theorem Selector.Chooses.congr (same : s.SameCarriers s') (chooses : c.Chooses s shipment g p) :
    c.Chooses s' shipment g p := by
  obtain ⟨groups, bookDate, pickupDate, booked, picked, awards⟩ := chooses
  refine ⟨{ groups with kept := ?_ }, bookDate, pickupDate, booked, picked,
    same.eligible_iff.2 awards.eligible, fun q eligible => ?_⟩
  · rw [Store.KeepsUnder, same.groupingIndex, same.groupings]
    exact groups.kept
  · exact awards.first q (same.eligible_iff.1 eligible)

end SameCarriers

namespace Calculator
variable {c : Calculator} {shipment : Shipment} {discount : DiscountRate} {item : LineItem}

theorem pricedAt_settledItem (delivered : shipment.status.isPriceable)
    (opened : (c.settledItem shipment discount item).isInvoiced = false)
    (approved : (c.settledItem shipment discount item).status.isPriceable) :
    c.PricedAt shipment discount (c.settledItem shipment discount item) := by
  have judged : c.Judged shipment discount (c.settledItem shipment discount item)
      (c.outcome shipment discount item) := judged_settledItem delivered
  rw [settledItem] at judged opened approved ⊢
  generalize c.outcome shipment discount item = o at *
  cases judged with
  | invoiced invoiced =>
    rw [invoiced] at opened
    contradiction
  | waiting _ _ waits =>
    rw [waits] at approved
    contradiction
  | charged _ known _ basis charged =>
    exact .charged (.charged opened known approved basis charged) charged ⟨rfl, rfl⟩
  | unknown _ known failed => exact .failed (.unknown opened known failed) failed ⟨rfl, rfl⟩
  | empty _ known _ nothing => exact .empty (.empty opened known approved nothing) ⟨rfl, rfl⟩
  | refused _ known _ basis failed =>
    exact .failed (.refused opened known approved basis failed) failed ⟨rfl, rfl⟩

end Calculator

namespace Recalculator
variable {r : Recalculator} {ids : IdSupply} {now : Timestamp} {fresh : GroupingId}
  {shipment linked : Shipment} {discount : DiscountRate} {p : CarrierPerformance}
  {basket : Basket} {miles : Miles} {s s' : Store} {report : RecalculationReport}

/-- From the shipment as it is before a run, and the stores before and after it: the run keeps
the shipment's performance and its links, or chooses a performance and links the shipment to it
and to its grouping. -/
inductive PricedBy (r : Recalculator) (s s' : Store) (before after : Shipment)
    (p : CarrierPerformance) : Prop
  | kept : s.Links before p → after.performanceId = before.performanceId →
      after.groupingId = before.groupingId → PricedBy r s s' before after p
  | chosen {g : Grouping} : (∀ q, ¬ s.Links before q) → r.selector.Chooses s' before g p →
      after.performanceId = some p.id → after.groupingId = some g.id →
      PricedBy r s s' before after p

theorem resolveDiscount_pricedBy (filed : s.Filed) (indexed : s.Indexed)
    (h : r.resolveDiscount fresh shipment s = .ok (discount, linked, s')) :
    ∃ p, discount = p.linehaulRate ∧ r.PricedBy s s' shipment linked p := by
  by_cases present : ∃ p, s.Links shipment p
  · obtain ⟨p, links⟩ := present
    obtain ⟨bookDate, pickupDate, booked, picked, covers⟩ := links.covers
    have kept : r.resolveDiscount fresh shipment s = .ok (p.linehaulRate, shipment, s) :=
      resolveDiscount_of_linked booked picked links.link links.stored
        (CarrierPerformance.covers_iff.2 covers)
    obtain ⟨rfl, rfl, rfl⟩ := by simpa [h] using kept
    exact ⟨p, rfl, .kept links rfl rfl⟩
  · obtain ⟨bookDate, booked, h⟩ := bind_eq_ok.1 h
    obtain ⟨pickupDate, picked, h⟩ := bind_eq_ok.1 h
    split at h
    · next p reused =>
      -- Such a performance is filed under the id that the shipment names.
      obtain ⟨stored, covers⟩ := Option.filter_eq_some_iff.1 reused
      obtain ⟨key, link, stored⟩ := Option.bind_eq_some_iff.1 stored
      obtain rfl : p.id = key := filed.performances stored
      exact absurd ⟨p, link, stored, bookDate, pickupDate,
        Shipment.requireBookDate_eq_ok.1 booked, Shipment.requirePickupDate_eq_ok.1 picked,
        CarrierPerformance.covers_iff.1 covers⟩ present
    · obtain ⟨a, assigned, h⟩ := bind_eq_ok.1 h
      obtain ⟨rfl, rfl, rfl⟩ := by simpa [pure, Except.pure] using h
      obtain ⟨g, chooses, linked⟩ := Selector.assignCarrier_chooses filed indexed assigned
      refine ⟨a.performance, rfl, .chosen (not_exists.1 present) chooses ?_ ?_⟩
      all_goals rw [linked]

/-- The performance is stored after the run, covers the shipment's dates, and the shipment is
linked to it. -/
theorem PricedBy.links (priced : r.PricedBy s s' shipment linked p)
    (performances : s'.performances = s.performances) (booked : linked.bookDate = shipment.bookDate)
    (picked : linked.requestedPickupDate = shipment.requestedPickupDate) : s'.Links linked p := by
  cases priced with
  | kept links performanceId _ =>
    refine ⟨performanceId.trans links.link, performances ▸ links.stored, ?_⟩
    rw [Shipment.CoveredBy, booked, picked]
    exact links.covers
  | chosen _ chooses performanceId _ =>
    obtain ⟨bookDate, pickupDate, booked', picked', awards⟩ := chooses.awards
    exact ⟨performanceId, awards.eligible.stored, bookDate, pickupDate, booked.trans booked',
      picked.trans picked', awards.eligible.covers⟩

theorem chargesAt_settle (filed : s.Filed) (delivered : shipment.status.isPriceable)
    (grows : Basket.Grows ids shipment.id now
      { items := s.lineItemsOf shipment.id, created := [] } basket)
    {pickup delivery : Address} (from_ : shipment.pickupAddress = some pickup)
    (to_ : shipment.deliveryAddress = some delivery)
    (answer : r.planner.distance pickup delivery r.distanceTimeout = .ok miles) :
    r.ChargesAt (r.settle basket shipment miles discount s).2
      (r.charged shipment miles discount) discount := by
  refine ⟨⟨pickup, delivery, miles, from_, to_, answer, charged_linehaulCharge⟩, ?_⟩
  intro item mem opened approved
  obtain ⟨stored, owner⟩ := (filed_settle filed).mem_lineItemsOf.1 mem
  rcases settle_get?_origin filed grows stored with ⟨old, -, -, rfl⟩ | ⟨-, other⟩
  · have delivered' : (r.charged shipment miles discount).status.isPriceable := delivered
    exact Calculator.pricedAt_settledItem delivered' opened approved
  · exact absurd owner other

/-- A settlement leaves the carriers and the shipment's links as they are. -/
theorem PricedBy.settle {side : Store} (priced : r.PricedBy s side shipment linked p) :
    r.PricedBy s (r.settle basket linked miles discount side).2 shipment
      (r.charged linked miles discount) p := by
  cases priced with
  | kept links performanceId groupingId => exact .kept links performanceId groupingId
  | chosen unlinked chooses performanceId groupingId =>
    refine .chosen unlinked (chooses.congr ?_) performanceId groupingId
    rw [settle_store]
    exact ⟨rfl, rfl, rfl, rfl⟩

/-- The shipment is linked to the performance that the run has priced it by. -/
theorem run_pricedBy (filed : s.Filed) (indexed : s.Indexed)
    (h : r.run ids now shipment s = .ok (report, s')) :
    ∃ after p, s'.shipments.get? shipment.id = some after ∧ s'.Links after p ∧
      r.PricedBy s s' shipment after p ∧ r.ChargesAt s' after p.linehaulRate ∧
      report.shipmentCharge = after.linehaulCharge ∧
      report.lineItems = s'.lineItemsOf shipment.id := by
  obtain ⟨delivered, weight, pickup, delivery, miles, discount, linked, s₁, _, from_, to_, answer,
    resolved, settled⟩ := run_eq_ok.1 h
  obtain ⟨p, rfl, priced⟩ := resolveDiscount_pricedBy filed indexed resolved
  have beside := resolveDiscount_beside resolved
  obtain ⟨⟨groupingId, performanceId, links⟩, -⟩ := resolveDiscount_frame resolved
  have sameId : linked.id = shipment.id := by rw [links]
  obtain rfl : _ = report := congrArg Prod.fst settled
  obtain rfl : _ = s' := congrArg Prod.snd settled
  have performances : (r.settle (r.refreshBasket ids now linked weight miles s₁) linked miles
      p.linehaulRate s₁).2.performances = s.performances := by
    rw [settle_store]
    exact beside.performances
  refine ⟨r.charged linked miles p.linehaulRate, p, ?_, ?_, priced.settle, ?_, rfl, ?_⟩
  · rw [settle_store, SortedMap.get?_insert, if_pos sameId.symm]
  · refine priced.settle.links performances ?_ ?_
    · rw [charged, links]
    · rw [charged, links]
  · exact chargesAt_settle (beside.filed filed) (by rwa [links])
      (r.refreshBasket_grows ids now linked weight miles s₁) (by rwa [links]) (by rwa [links])
      answer
  · rw [← sameId]
    rfl

/-- Under a grouping id that no performance uses, a run needs a performance that the shipment is
linked to, or one to choose in the store as it stands. -/
theorem run_ne_ok (filed : s.Filed) (indexed : s.Indexed) (unused : s.UnusedGrouping ⟨ids 0⟩)
    (unlinked : ∀ p, ¬ s.Links shipment p)
    (unchosen : ∀ g p, ¬ r.selector.Chooses s shipment g p) :
    r.run ids now shipment s ≠ .ok (report, s') := by
  intro h
  obtain ⟨_, _, _, _, _, discount, linked, s₁, _, _, _, _, resolved, _⟩ := run_eq_ok.1 h
  obtain ⟨rfl, -⟩ : s₁ = s ∧ r.resolveDiscount ⟨ids 0⟩ shipment s = .ok (discount, linked, s) :=
    resolveDiscount_congr unused (.refl s) resolved
  obtain ⟨p, -, priced⟩ := resolveDiscount_pricedBy filed indexed resolved
  cases priced with
  | kept links _ _ => exact unlinked p links
  | chosen _ chooses _ _ => exact unchosen _ p chooses

end Recalculator

/-- After a recalculation the shipment is linked to the stored performance that it was priced by,
and the charges are those at its discount. Without a performance to keep or to choose the
recalculation fails, and nothing is committed. -/
theorem Services.recalculate_carrier (v : Services) (ids : IdSupply) (now : Timestamp)
    {id : ShipmentId} {before : Shipment} {s : Store} (filed : s.Filed) (indexed : s.Indexed)
    (stored : s.shipments.get? id = some before) :
    (∀ report s', v.recalculator.recalculate ids now id s = .ok (report, s') →
      ∃ after p, s'.shipments.get? id = some after ∧ s'.Links after p ∧
        v.recalculator.PricedBy s s' before after p ∧
        v.recalculator.ChargesAt s' after p.linehaulRate ∧
        report.shipmentCharge = after.linehaulCharge ∧ report.lineItems = s'.lineItemsOf id) ∧
    (s.UnusedGrouping ⟨ids 0⟩ → (∀ p, ¬ s.Links before p) →
      (∀ g p, ¬ v.recalculator.selector.Chooses s before g p) →
      (∃ e, v.recalculator.recalculate ids now id s = .error e) ∧
        v.commit s (.recalculate ids now id) = s) := by
  obtain rfl : before.id = id := filed.shipments stored
  have loaded : v.recalculator.recalculate ids now before.id s =
      v.recalculator.run ids now before s := by
    rw [Recalculator.recalculate, Store.loadShipment_eq_ok.2 stored, ok_bind]
  rw [loaded]
  refine ⟨fun report s' ran => Recalculator.run_pricedBy filed indexed ran, ?_⟩
  intro unused unlinked unchosen
  cases ran : v.recalculator.run ids now before s with
  | ok result => exact absurd ran (Recalculator.run_ne_ok filed indexed unused unlinked unchosen)
  | error e =>
    refine ⟨⟨e, rfl⟩, commit_of_error (e := e) ?_⟩
    rw [run, loaded, ran]
    rfl

/-- A link to a performance at half the rates, which ended the day before the shipment was booked,
gives way to the performance of the shipment's grouping, at full rates. Where there are no carriers
the shipment is not priced. -/
theorem Services.recalculate_carrier_sample :
    let half : DiscountRate := ⟨⟨false, 5, 1, by decide, by decide⟩, by decide, by decide⟩
    let expired := { Sample.performance with
      id := Sample.id 4, linehaulRate := half, periodEnd := Sample.day 18999 }
    let before := { Sample.shipment with performanceId := some (Sample.id 4) }
    let s := { Sample.store.saveShipment before with
      performances := Sample.store.performances.insert expired.id expired }
    let bare := { Sample.store with carriers := .empty }
    (∃ report s' after item,
      Sample.recalculator.recalculate Sample.ids Sample.time (Sample.id 1) s = .ok (report, s') ∧
      s'.shipments.get? (Sample.id 1) = some after ∧ s'.Links after Sample.performance ∧
      Sample.recalculator.PricedBy s s' before after Sample.performance ∧
      Sample.recalculator.ChargesAt s' after .full ∧
      after.linehaulCharge = some ⟨⟨400000⟩, ⟨100000⟩⟩ ∧
      item ∈ s'.lineItemsOf (Sample.id 1) ∧ item.tariffCode = "185A" ∧
      item.amount = some ⟨4000⟩ ∧
      Sample.recalculator.calculator.lineItemCharge item after .full =
        .ok ⟨⟨4000⟩, ⟨100000⟩⟩) ∧
    (∃ e, Sample.recalculator.recalculate Sample.ids Sample.time (Sample.id 1) bare = .error e) ∧
      Sample.services.commit bare (.recalculate Sample.ids Sample.time (Sample.id 1)) = bare := by
  intro half expired before s bare
  have indexed₀ : Sample.store.Indexed :=
    Store.indexed_ofRecords (r := Sample.records) (by decide) (by rfl)
  constructor
  · have filed : s.Filed :=
      { Sample.filed_store.saveShipment before with
        performances := Sample.filed_store.performances.insert expired }
    have given : ∃ result, (Sample.recalculator.recalculate Sample.ids Sample.time (Sample.id 1)
        s).toOption = some result ∧
        result.2.performances.get? (Sample.id 1) = some Sample.performance ∧
        (result.2.shipments.get? (Sample.id 1)).map (·.id) = some (Sample.id 1) ∧
        (result.2.shipments.get? (Sample.id 1)).bind (·.performanceId) = some (Sample.id 1) ∧
        (result.2.shipments.get? (Sample.id 1)).bind (·.linehaulCharge) =
          some ⟨⟨400000⟩, ⟨100000⟩⟩ ∧
        ∃ item ∈ result.2.lineItemsOf (Sample.id 1), item.tariffCode = "185A" ∧
          item.isInvoiced = false ∧ item.status.isPriceable ∧
          item.amount = some ⟨4000⟩ ∧ item.appliedRate = some ⟨100000⟩ := by
      decide +kernel
    obtain ⟨⟨report, s'⟩, found, performance, sameId, linked, linehaul, item, mem, code, opened,
      approved, amount, appliedRate⟩ := given
    have recalculated := toOption_eq_some.1 found
    obtain ⟨after, p, stored, links, priced, charges, -⟩ :=
      (recalculate_carrier Sample.services Sample.ids Sample.time filed indexed₀ (by rfl)).1
        report s' recalculated
    rw [stored] at sameId linked linehaul
    have sameId : after.id = Sample.id 1 := Option.some.inj sameId
    have linked : after.performanceId = some (Sample.id 1) := linked
    obtain rfl : Sample.performance = p := by
      rw [links.link] at linked
      have := links.stored
      rw [Option.some.inj linked, performance] at this
      exact Option.some.inj this
    refine ⟨report, s', after, item, recalculated, stored, links, priced, charges, linehaul, mem,
      code, amount, ?_⟩
    have priced : item.PricedAs (some ⟨⟨4000⟩, ⟨100000⟩⟩) := ⟨amount, appliedRate⟩
    cases charges.lineItems item (sameId ▸ mem) opened approved with
    | charged _ charged priced' =>
      exact charged.trans (congrArg Except.ok (Option.some.inj (priced'.unique priced)))
    | empty _ unpriced => exact nomatch priced.unique unpriced
    | failed _ _ unpriced => exact nomatch priced.unique unpriced
  · have filed : bare.Filed := { Sample.filed_store with carriers := SortedMap.filedBy_empty }
    refine (recalculate_carrier Sample.services Sample.ids Sample.time filed indexed₀ (by rfl)).2
      (by decide +kernel) ?_ ?_
    · exact fun p links => nomatch links.link
    · intro g p chooses
      obtain ⟨_, _, -, -, awards⟩ := chooses.awards
      obtain ⟨carrier, stored, -⟩ := awards.eligible.enrolled
      exact nomatch stored

end Haulage
