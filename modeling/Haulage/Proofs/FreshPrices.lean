import Haulage.Proofs.PricingGate

/-! Prices follow what they are worked out from. Over one rate table, every price that is
not invoiced is the charge of its item for the performance that the shipment is linked
to, after every operation. What an operation does not price again it clears, or it was
too early for a price. -/
namespace Haulage

namespace Store

/-- A price that is not invoiced is the charge at the linked performance's discount. -/
def Current (t : RateTable) (s : Store) (item : LineItem) : Prop :=
  item.isInvoiced = false → item.amount.isSome →
    ∃ shipment id performance charge, s.shipments.get? item.shipmentId = some shipment ∧
      shipment.performanceId = some id ∧ s.performances.get? id = some performance ∧
      ({ rates := t } : Calculator).lineItemCharge item shipment performance.linehaulRate =
        .ok charge ∧
      item.amount = some charge.fee ∧ item.appliedRate = some charge.rate

structure FreshPriced (t : RateTable) (s : Store) : Prop where
  filed : s.Filed
  gated : s.ItemsGated
  current : ∀ ⦃id item⦄, s.lineItems.get? id = some item → s.Current t item

variable {t : RateTable} {s s' : Store} {item new : LineItem}

theorem current_of_unpriced (unpriced : item.amount = none) : s.Current t item := by
  intro _ priced
  rw [unpriced] at priced
  contradiction

theorem current_of_isInvoiced (invoiced : item.isInvoiced = true) : s.Current t item := by
  intro opened
  rw [invoiced] at opened
  contradiction

/-- The charge does not depend on the approval. -/
theorem Current.apply {action : LineItemAction} {now : Timestamp} (current : s.Current t item)
    (h : item.apply action now = .ok new) : s.Current t new := by
  obtain ⟨status, -, rfl⟩ := LineItem.apply_eq_ok h
  exact current

theorem Current.repriced {c : Calculator} {link : Except Error DiscountRate} {shipment : Shipment}
    (gates : s.Gates item) (owner : s.shipments.get? item.shipmentId = some shipment)
    (linked : link = s.shipmentDiscount shipment)
    (repriced : c.Repriced link shipment item new) : s.Current c.rates new := by
  induction repriced with
  | priced _ _ found charged =>
    intro _ _
    obtain ⟨id, performance, link, stored, rfl⟩ :=
      shipmentDiscount_eq_ok.1 (linked.symm.trans found)
    exact ⟨shipment, id, performance, _, owner, link, stored, charged, rfl, rfl⟩
  | cleared => exact current_of_unpriced rfl
  | early waiting =>
    intro _ priced
    obtain ⟨shipment', owner', delivered⟩ := gates.delivered priced
    obtain rfl := Option.some.inj (owner.symm.trans owner')
    exact absurd ⟨LineItemStatus.isPriceable_iff.2 (gates.approved priced),
      ShipmentStatus.isPriceable_iff.2 delivered⟩ waiting
  | moved _ h ih => exact ih.apply h

theorem Current.mono (current : s.Current t item)
    (owner : s'.shipments.get? item.shipmentId = s.shipments.get? item.shipmentId)
    (performances : s'.performances = s.performances) : s'.Current t item := by
  intro opened priced
  rw [owner, performances]
  exact current opened priced

theorem FreshPriced.beside (fresh : s.FreshPriced t) (beside : s.Beside s') :
    s'.FreshPriced t := by
  refine ⟨beside.filed fresh.filed, fresh.gated.beside beside, ?_⟩
  intro id item stored
  rw [beside.lineItems] at stored
  exact (fresh.current stored).mono (by rw [beside.shipments]) beside.performances

theorem FreshPriced.saveLineItem (fresh : s.FreshPriced t) (gates : s.Gates item)
    (current : s.Current t item) : (s.saveLineItem item).FreshPriced t := by
  refine ⟨fresh.filed.saveLineItem item, fresh.gated.saveLineItem gates, ?_⟩
  intro id item' stored
  rw [Store.saveLineItem, SortedMap.get?_insert] at stored
  split at stored
  · obtain rfl := Option.some.inj stored
    exact current.mono rfl rfl
  · exact (fresh.current stored).mono rfl rfl

theorem FreshPriced.eraseLineItem (fresh : s.FreshPriced t) (id : LineItemId) :
    FreshPriced t { s with lineItems := s.lineItems.erase id } := by
  refine ⟨{ fresh.filed with lineItems := fresh.filed.lineItems.erase id },
    fresh.gated.eraseLineItem id, ?_⟩
  intro key item stored
  rw [SortedMap.get?_erase] at stored
  split at stored
  · contradiction
  · exact (fresh.current stored).mono rfl rfl

end Store

/-- A run prices all items of its shipment again, and the shipments of all others stay. -/
theorem Recalculator.Ran.current {r : Recalculator} {s s' : Store} {id : ShipmentId}
    {after : Shipment} {discount : DiscountRate} (ran : r.Ran s id after discount s')
    (fresh : s.FreshPriced r.calculator.rates) {key : LineItemId} {item : LineItem}
    (stored : s'.lineItems.get? key = some item) : s'.Current r.calculator.rates item := by
  rcases ran.lineItems stored with ⟨before, drawn, repriced⟩ | ⟨stood, rest⟩
  · have linked : .ok discount = s'.shipmentDiscount after := by
      obtain ⟨id, performance, link, found, rate⟩ :=
        Store.shipmentDiscount_eq_ok.1 (ran.link fresh.filed)
      rw [← ran.performances] at found
      exact (Store.shipmentDiscount_eq_ok.2 ⟨id, performance, link, found, rate⟩).symm
    exact Store.Current.repriced (ran.gates fresh.gated drawn) (ran.owner drawn) linked repriced
  · by_cases same : item.shipmentId = id
    · exact Store.current_of_isInvoiced (rest fresh.filed same)
    · refine (fresh.current stood).mono ?_ ran.performances
      rw [ran.shipments, SortedMap.get?_insert, if_neg same]

namespace Services
variable {v : Services} {t : RateTable} {s s' : Store} {op : Operation}

theorem freshPriced_run {r : Recalculator} {ids : IdSupply} {now : Timestamp}
    {shipment : Shipment} {report : RecalculationReport} (rates : r.calculator.rates = t)
    (fresh : s.FreshPriced t) (h : r.run ids now shipment s = .ok (report, s')) :
    s'.FreshPriced t := by
  subst t
  obtain ⟨after, discount, ran⟩ := Recalculator.ran_of_run h
  refine ⟨Recalculator.filed_run fresh.filed h, ran.itemsGated fresh.gated, ?_⟩
  intro key item stored
  exact ran.current fresh stored

theorem Step.freshPriced (rates : v.calculator.rates = t)
    (rates' : v.recalculator.calculator.rates = t) (step : v.Step s op s')
    (fresh : s.FreshPriced t) : s'.FreshPriced t := by
  subst rates
  cases step with
  | create beside refilled =>
    apply (fresh.beside beside).saveLineItem
    · exact Store.Gates.refilled (Store.gates_of_unpriced rfl rfl) refilled
    · exact Store.current_of_unpriced refilled.amount
  | update stored owner _ refilled beside repriced =>
    have gates := ((fresh.gated stored).refilled refilled).mono
      (Store.keepsDelivered_of_shipments beside.shipments)
    rw [← refilled.shipmentId, ← beside.shipments] at owner
    apply (fresh.beside beside).saveLineItem
    · exact gates.repriced owner repriced
    · exact Store.Current.repriced gates owner rfl repriced
  | approve stored owner moved _ priced =>
    have gates := (fresh.gated stored).apply moved
    have current := (fresh.current stored).apply moved
    rcases priced with rfl | repriced
    · exact fresh.saveLineItem gates current
    · obtain ⟨status, -, rfl⟩ := LineItem.apply_eq_ok moved
      apply fresh.saveLineItem
      · exact gates.repriced owner repriced
      · exact Store.Current.repriced gates owner rfl repriced
  | delete _ _ beside => exact (fresh.eraseLineItem _).beside beside
  | sit beside => exact fresh.beside beside
  | recalculate _ ran => exact freshPriced_run rates' fresh ran
  | deliver _ _ beside _ ran => exact freshPriced_run rates' (fresh.beside beside) ran

/-- Over one rate table, no operation leaves a stale price behind. -/
theorem freshPriced_commit (rates : v.calculator.rates = t)
    (rates' : v.recalculator.calculator.rates = t) (fresh : s.FreshPriced t) (op : Operation) :
    (v.commit s op).FreshPriced t := by
  apply commit_of_step fresh
  intro s' step
  exact step.freshPriced rates rates' fresh

/-- A first recalculation prices items that are not invoiced, a second one does it again
over twice the distance. -/
theorem freshPriced_commit_sample :
    let s := Sample.services.commit Sample.store
      (.recalculate Sample.ids Sample.time (Sample.id 1))
    let detour : Recalculator := { Sample.recalculator with planner := .fixed 200 }
    (∃ item ∈ s.lineItems.values, item.isInvoiced = false ∧ item.amount.isSome) ∧
      (commit { Sample.services with recalculator := detour } s
        (.recalculate Sample.ids Sample.time (Sample.id 1))).FreshPriced Sample.rates := by
  have filed : Sample.store.Filed := Store.filed_ofRecords (r := Sample.records) (by rfl)
  have gated : Sample.store.ItemsGated := by decide +kernel
  have invoiced : ∀ e ∈ Sample.store.lineItems.entries, e.2.isInvoiced := by decide +kernel
  have start : Sample.store.FreshPriced Sample.rates := by
    refine ⟨filed, gated, ?_⟩
    intro id item stored
    exact Store.current_of_isInvoiced (invoiced _ (SortedMap.get?_eq_some_iff.1 stored))
  have first := freshPriced_commit (v := Sample.services) rfl rfl start
    (.recalculate Sample.ids Sample.time (Sample.id 1))
  exact ⟨by decide +kernel, freshPriced_commit (t := Sample.rates) rfl rfl first _⟩

end Services
end Haulage
