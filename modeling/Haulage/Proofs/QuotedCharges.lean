import Haulage.Proofs.ApprovalOrder
import Haulage.Proofs.BaseCharges
import Haulage.Proofs.Units

/-! A quote is what a recalculation charges. The recalculation of a shipment that has no line
items yet makes the base charges that the quote prices, in the same quantities, and prices
them all, where the quote ends with the first that has no price. -/
namespace Haulage

theorem forall_mem_iff_of_forall₂ {α β : Type} {R : α → β → Prop} {p : α → Prop} {q : β → Prop}
    {xs : List α} {ys : List β} (related : xs.Forall₂ R ys) (same : ∀ x y, R x y → (p x ↔ q y)) :
    (∀ x ∈ xs, p x) ↔ ∀ y ∈ ys, q y := by
  induction related with
  | nil => simp
  | cons here _ ih => rw [List.forall_mem_cons, List.forall_mem_cons, same _ _ here, ih]

theorem forall₂_of_common {α β γ : Type} {R : α → β → Prop} {S : α → γ → Prop} {xs : List α}
    {ys : List β} {zs : List γ} (first : xs.Forall₂ R ys) (second : xs.Forall₂ S zs) :
    ys.Forall₂ (fun y z => ∃ x, R x y ∧ S x z) zs := by
  induction first generalizing zs with
  | nil =>
    cases second
    exact .nil
  | cons here _ ih =>
    cases second with
    | cons here' there => exact .cons ⟨_, here, here'⟩ (ih there)

/-- Sums of 64-bit integers may be taken in any order. -/
theorem sum_int64_of_perm {xs ys : List Int64} (perm : xs.Perm ys) : xs.sum = ys.sum := by
  rw [List.sum_eq_foldr, List.sum_eq_foldr]
  exact perm.foldr_eq 0

namespace Calculator
variable {c : Calculator} {shipment supposed : Shipment} {item : LineItem} {miles : Miles}
  {discount : DiscountRate}

/-- Of the shipment only the weight and the booking date matter to a charge. -/
theorem lineItemCharge_congr (netWeight : supposed.netWeight = shipment.netWeight)
    (bookDate : supposed.bookDate = shipment.bookDate) :
    c.lineItemCharge item supposed discount = c.lineItemCharge item shipment discount := by
  simp only [lineItemCharge, Shipment.requireNetWeight, Shipment.requireBookDate, netWeight,
    bookDate]

theorem shipmentCharge_congr (netWeight : supposed.netWeight = shipment.netWeight)
    (bookDate : supposed.bookDate = shipment.bookDate) :
    c.shipmentCharge supposed miles discount = c.shipmentCharge shipment miles discount := by
  simp only [shipmentCharge, Shipment.requireNetWeight, Shipment.requireBookDate, netWeight,
    bookDate]

end Calculator

/-- What becomes of an item whose charge is looked for. -/
def PricingOutcome.ofCharge : Except Error FeeAndRate → PricingOutcome
  | .ok charge => .priced charge
  | .error e => .failed e

/-- An item of which a quantity is charged gets its charge, or the failure of it. -/
theorem Calculator.outcome_of_quantity {c : Calculator} {data : ReferenceData}
    {shipment : Shipment} {discount : DiscountRate} {item : LineItem}
    (accepted : RateTable.ofReference data = .ok c.rates) (opened : item.isInvoiced = false)
    (approved : item.status.isPriceable) (delivered : shipment.status.isPriceable)
    (code : item.tariffCode ≠ actualCostCode) (quantity : item.quantity1.isZero = false) :
    c.outcome shipment discount item =
      PricingOutcome.ofCharge (c.lineItemCharge item shipment discount) := by
  cases known : c.rates.tariffItem item.tariffCode with
  | error e =>
    simp [outcome, opened, known, lineItemCharge, bind, Except.bind, PricingOutcome.ofCharge]
  | ok tariff =>
    have sameCode : tariff.code = item.tariffCode := RateTable.code_of_tariffItem accepted known
    have basis : item.hasPricingBasis tariff := by
      simp [LineItem.hasPricingBasis, TariffItem.isActualCost, sameCode, code, quantity]
    rcases outcome_of_basis known opened approved delivered basis with
      ⟨charge, charged, priced⟩ | ⟨e, uncharged, failed⟩
    · rw [charged]
      exact priced
    · rw [uncharged]
      exact failed

/-- The item that a quote prices for a category. -/
def QuoteRequest.item (request : QuoteRequest) (now : Timestamp) (category : BaseCategory) :
    LineItem :=
  (LineItem.base default request.shipment.id category now).withBaseQuantities category
    request.weight request.miles

/-- The base charge that the request asks a price of, approved from the start. -/
structure QuoteRequest.AsksFor (request : QuoteRequest) (now : Timestamp) (category : BaseCategory)
    (item : LineItem) : Prop where
  alike : (request.item now category).Alike item
  status : item.status = .approved

namespace Basket
variable {t : RateTable} {ids : IdSupply} {shipmentId : ShipmentId} {now now' : Timestamp}
  {request : QuoteRequest}

theorem missingBaseCategories_nil : t.missingBaseCategories [] = BaseCategory.all := by
  simp [RateTable.missingBaseCategories]

/-- A shipment without line items gets one for each category. -/
theorem forall₂_addMissing :
    BaseCategory.all.Forall₂ (fun category item => ∃ id, item = .base id shipmentId category now)
      (addMissing { items := [], created := [] } t ids shipmentId now).items := by
  have pushes (categories done : List BaseCategory) (b : Basket)
      (before : done.Forall₂ (fun category item => ∃ id, item = .base id shipmentId category now)
        b.items) :
      (done ++ categories).Forall₂
        (fun category item => ∃ id, item = .base id shipmentId category now)
        (categories.foldl
          (fun b category => b.push (.base (b.nextId ids) shipmentId category now)) b).items := by
    induction categories generalizing done b with
    | nil => simpa using before
    | cons category rest ih =>
      have next := ih (done ++ [category]) (b.push (.base (b.nextId ids) shipmentId category now))
        (List.rel_append before (.cons ⟨_, rfl⟩ .nil))
      simpa using next
  rw [addMissing, missingBaseCategories_nil]
  exact pushes BaseCategory.all [] _ .nil

theorem asksFor_refreshBaseItem (openCodes : t.OpenBaseCodes) (id : LineItemId)
    (category : BaseCategory) :
    request.AsksFor now category (t.refreshBaseItem request.weight request.miles
      (.base id shipmentId category now')) := by
  have opened : (LineItem.base id shipmentId category now').isInvoiced = false := rfl
  rw [RateTable.refreshBaseItem, opened, RateTable.baseCategory?_base openCodes]
  exact ⟨⟨rfl, rfl, rfl, rfl, rfl, rfl, rfl⟩, rfl⟩

/-- Without SITs these are all items, in the quantities of the request. -/
theorem asksFor_refreshed (openCodes : t.OpenBaseCodes) :
    BaseCategory.all.Forall₂ (request.AsksFor now)
      (refreshed t ids shipmentId now' request.weight request.miles []
        { items := [], created := [] }).items := by
  rw [refreshed, List.foldl_nil, refreshBase, List.forall₂_map_right_iff]
  refine List.Forall₂.imp ?_ forall₂_addMissing
  rintro category _ ⟨id, rfl⟩
  exact asksFor_refreshBaseItem openCodes id category

end Basket

namespace Calculator
variable {c : Calculator} {request : QuoteRequest} {discount : DiscountRate} {now : Timestamp}

theorem quotedCharge_eq_ok {category : BaseCategory} {quoted : QuotedCharge} :
    c.quotedCharge request discount now category = .ok quoted ↔
      c.lineItemCharge (request.item now category) request.shipment discount =
        .ok quoted.charge ∧ quoted.category = category := by
  have step : c.quotedCharge request discount now category =
      (c.lineItemCharge (request.item now category) request.shipment discount >>=
        fun charge => .ok { category, charge }) := rfl
  rw [step, bind_eq_ok]
  constructor
  · rintro ⟨charge, charged, ⟨⟩⟩
    exact ⟨charged, rfl⟩
  · rintro ⟨charged, rfl⟩
    exact ⟨_, charged, rfl⟩

theorem quote_eq_ok {quote : Quote} (h : c.quote request discount now = .ok quote) :
    c.shipmentCharge request.shipment request.miles discount = .ok quote.shipmentCharge ∧
      BaseCategory.all.Forall₂ (fun category quoted =>
        c.lineItemCharge (request.item now category) request.shipment discount =
          .ok quoted.charge ∧ quoted.category = category) quote.charges ∧
      quote.total.val = (quote.charges.map (·.charge.fee.val)).sum := by
  obtain ⟨charge, charged, h⟩ := bind_eq_ok.1 h
  obtain ⟨charges, each, h⟩ := bind_eq_ok.1 h
  obtain rfl := Except.ok.inj h
  exact ⟨charged, (mapM_eq_ok.1 each).imp fun _ _ => quotedCharge_eq_ok.1, rfl⟩

/-- A quote is given where the shipment and each of the base charges can be priced. -/
theorem exists_quote_iff :
    (∃ quote, c.quote request discount now = .ok quote) ↔
      (∃ charge, c.shipmentCharge request.shipment request.miles discount = .ok charge) ∧
        ∀ category ∈ BaseCategory.all, ∃ charge,
          c.lineItemCharge (request.item now category) request.shipment discount =
            .ok charge := by
  have each : (∀ category ∈ BaseCategory.all, ∃ charge,
      c.lineItemCharge (request.item now category) request.shipment discount = .ok charge) ↔
      ∃ charges, BaseCategory.all.mapM (c.quotedCharge request discount now) = .ok charges := by
    rw [exists_mapM_eq_ok]
    refine forall₂_congr fun category _ => ⟨?_, ?_⟩
    · rintro ⟨charge, charged⟩
      exact ⟨⟨category, charge⟩, quotedCharge_eq_ok.2 ⟨charged, rfl⟩⟩
    · rintro ⟨quoted, made⟩
      exact ⟨_, (quotedCharge_eq_ok.1 made).1⟩
  rw [each]
  constructor
  · rintro ⟨quote, h⟩
    obtain ⟨charge, charged, h⟩ := bind_eq_ok.1 h
    obtain ⟨charges, each, -⟩ := bind_eq_ok.1 h
    exact ⟨⟨charge, charged⟩, charges, each⟩
  · rintro ⟨⟨charge, charged⟩, charges, each⟩
    exact ⟨_, bind_eq_ok.2 ⟨charge, charged, bind_eq_ok.2 ⟨charges, each, rfl⟩⟩⟩

end Calculator

/-- The stored shipment is one that the request supposes: delivered, with the facts of the
request, and with a carrier that gives the discount. It has no line items and no SITs yet. -/
structure QuoteRequest.Supposes (request : QuoteRequest) (r : Recalculator)
    (discount : DiscountRate) (s : Store) (shipment : Shipment) : Prop where
  stored : s.shipments.get? shipment.id = some shipment
  delivered : shipment.status = .delivered
  netWeight : shipment.netWeight = some request.weight
  bookDate : shipment.bookDate = some request.bookDate
  pickupDate : shipment.requestedPickupDate = some request.pickupDate
  distance : ∃ pickup delivery, shipment.pickupAddress = some pickup ∧
    shipment.deliveryAddress = some delivery ∧
    r.planner.distance pickup delivery r.distanceTimeout = .ok request.miles
  carrier : ∃ id performance, shipment.performanceId = some id ∧
    s.performances.get? id = some performance ∧
    performance.covers request.bookDate request.pickupDate ∧ performance.linehaulRate = discount
  lineItems : s.lineItemsOf shipment.id = []
  sits : s.sitsOf shipment.id = []

namespace Recalculator
variable {r : Recalculator} {data : ReferenceData} {ids : IdSupply} {now now' : Timestamp}
  {request : QuoteRequest} {discount : DiscountRate} {s s' : Store} {shipment : Shipment}
  {basket : Basket} {miles : Miles} {report : RecalculationReport}

theorem settle_failures_eq_nil :
    (r.settle basket shipment miles discount s).1.failures = [] ↔
      (∃ charge, r.calculator.shipmentCharge shipment miles discount = .ok charge) ∧
        ∀ item ∈ basket.items, ∀ e, r.calculator.outcome shipment discount item ≠ .failed e := by
  have linehaul : (r.linehaul shipment miles discount).2 = [] ↔
      ∃ charge, r.calculator.shipmentCharge shipment miles discount = .ok charge := by
    unfold Recalculator.linehaul
    cases r.calculator.shipmentCharge shipment miles discount <;> simp
  rw [settle_failures_eq, List.append_eq_nil_iff, linehaul, List.filterMap_eq_nil_iff]
  exact and_congr_right fun _ => forall₂_congr fun item _ => PricingOutcome.failure?_eq_none

theorem recalculate_supposed (supposes : request.Supposes r discount s shipment) :
    r.recalculate ids now shipment.id s = .ok (r.settle
      (r.refreshBasket ids now shipment request.weight request.miles s) shipment request.miles
      discount s) := by
  obtain ⟨pickup, delivery, from_, to_, answer⟩ := supposes.distance
  obtain ⟨id, performance, link, stored, covers, rfl⟩ := supposes.carrier
  have priceable : shipment.status.isPriceable := by
    rw [supposes.delivered]
    rfl
  have resolved : r.resolveDiscount ⟨ids 0⟩ shipment s =
      .ok (performance.linehaulRate, shipment, s) :=
    resolveDiscount_of_linked supposes.bookDate supposes.pickupDate link stored covers
  refine recalculate_eq_ok.2 ⟨shipment, supposes.stored, run_eq_ok.2 ⟨priceable, ?_⟩⟩
  exact ⟨_, _, _, _, _, _, _, supposes.netWeight, from_, to_, answer, resolved, rfl⟩

theorem outcome_of_asksFor {category : BaseCategory} {item : LineItem}
    (accepted : RateTable.ofReference data = .ok r.calculator.rates)
    (inRange : Quantity.InRange request.weight.val) (weighed : request.weight.val ≠ 0)
    (supposes : request.Supposes r discount s shipment) (asks : request.AsksFor now category item) :
    r.calculator.outcome shipment discount item = PricingOutcome.ofCharge
      (r.calculator.lineItemCharge (request.item now category) request.shipment discount) := by
  have approved : item.status.isPriceable := by
    rw [asks.status]
    rfl
  have delivered : shipment.status.isPriceable := by
    rw [supposes.delivered]
    rfl
  have code : item.tariffCode ≠ actualCostCode := by
    rw [asks.alike.tariffCode]
    show category.code ≠ actualCostCode
    cases category <;> decide
  have quantity : item.quantity1.isZero = false := by
    rw [asks.alike.quantity1]
    exact Quantity.isZero_ofUnits inRange weighed
  have sameFacts : r.calculator.lineItemCharge (request.item now category) request.shipment
      discount = r.calculator.lineItemCharge (request.item now category) shipment discount :=
    Calculator.lineItemCharge_congr supposes.netWeight.symm supposes.bookDate.symm
  rw [Calculator.outcome_of_quantity accepted asks.alike.isInvoiced approved delivered code
    quantity, asks.alike.lineItemCharge rfl, sameFacts]

theorem asksFor_refreshBasket (openCodes : r.calculator.rates.OpenBaseCodes)
    (supposes : request.Supposes r discount s shipment) :
    BaseCategory.all.Forall₂ (request.AsksFor now')
      (r.refreshBasket ids now shipment request.weight request.miles s).items := by
  rw [refreshBasket, supposes.lineItems, supposes.sits]
  exact Basket.asksFor_refreshed openCodes

end Recalculator

/-- The report has the charges of the quote: the linehaul charge, and one base charge for each
category at the fee and rate that are quoted, which add up to the total. -/
structure RecalculationReport.Charges (t : RateTable) (quote : Quote)
    (report : RecalculationReport) : Prop where
  shipmentCharge : report.shipmentCharge = some quote.shipmentCharge
  categories : quote.charges.map (·.category) = BaseCategory.all
  lineItems : (report.lineItems.map fun item =>
      (t.baseCategory? item, item.amount, item.appliedRate)).Perm
    (quote.charges.map fun quoted =>
      (some quoted.category, some quoted.charge.fee, some quoted.charge.rate))
  total : ((report.lineItems.filterMap (·.amount)).map (·.val)).sum = quote.total.val

namespace Recalculator
variable {r : Recalculator} {data : ReferenceData} {ids : IdSupply} {now now' : Timestamp}
  {request : QuoteRequest} {discount : DiscountRate} {s s' : Store} {shipment : Shipment}
  {report : RecalculationReport} {quote : Quote}

/-- Each item of the basket is settled at the charge that is quoted for its category. -/
theorem settled_of_quote (accepted : RateTable.ofReference data = .ok r.calculator.rates)
    (openCodes : r.calculator.rates.OpenBaseCodes) (inRange : Quantity.InRange request.weight.val)
    (weighed : request.weight.val ≠ 0) (supposes : request.Supposes r discount s shipment)
    (each : BaseCategory.all.Forall₂ (fun category quoted =>
      r.calculator.lineItemCharge (request.item now' category) request.shipment discount =
        .ok quoted.charge ∧ quoted.category = category) quote.charges) :
    (r.refreshBasket ids now shipment request.weight request.miles s).items.Forall₂
      (fun item quoted =>
        r.calculator.settledItem shipment discount item = item.setPrice quoted.charge ∧
          r.calculator.rates.baseCategory? item = some quoted.category) quote.charges := by
  have asks : BaseCategory.all.Forall₂ (request.AsksFor now')
      (r.refreshBasket ids now shipment request.weight request.miles s).items :=
    asksFor_refreshBasket openCodes supposes
  refine (forall₂_of_common asks each).imp ?_
  rintro item quoted ⟨category, asks, priced, rfl⟩
  constructor
  · rw [Calculator.settledItem, outcome_of_asksFor accepted inRange weighed supposes asks, priced]
    rfl
  · rw [asks.alike.baseCategory?, ← RateTable.baseCategory?_base openCodes default
      request.shipment.id quoted.category now']
    exact RateTable.baseCategory?_congr rfl rfl

/-- The items that are stored have the categories, fees and rates of the quote. -/
theorem entries_of_settled (filed : s.Filed) (fresh : ids.FreshFor s shipment.id)
    (settled : (r.settle (r.refreshBasket ids now shipment request.weight request.miles s)
      shipment request.miles discount s).2 = s')
    (prices : (r.refreshBasket ids now shipment request.weight request.miles s).items.Forall₂
      (fun item quoted =>
        r.calculator.settledItem shipment discount item = item.setPrice quoted.charge ∧
          r.calculator.rates.baseCategory? item = some quoted.category) quote.charges) :
    ((s'.lineItemsOf shipment.id).map fun item =>
        (r.calculator.rates.baseCategory? item, item.amount, item.appliedRate)).Perm
      (quote.charges.map fun quoted =>
        (some quoted.category, some quoted.charge.fee, some quoted.charge.rate)) := by
  refine ((lineItemsOf_settled_perm filed fresh settled).map _).trans (.of_eq ?_)
  rw [List.map_map, ← List.forall₂_eq_eq_eq, List.forall₂_map_left_iff,
    List.forall₂_map_right_iff]
  refine prices.imp ?_
  rintro item quoted ⟨price, category⟩
  rw [Function.comp_apply, price, ← category]
  exact Prod.ext (RateTable.baseCategory?_congr rfl rfl) rfl

theorem charges_of_quote (accepted : RateTable.ofReference data = .ok r.calculator.rates)
    (openCodes : r.calculator.rates.OpenBaseCodes) (filed : s.Filed)
    (fresh : ids.FreshFor s shipment.id) (inRange : Quantity.InRange request.weight.val)
    (weighed : request.weight.val ≠ 0) (supposes : request.Supposes r discount s shipment)
    (quoted : r.calculator.quote request discount now' = .ok quote)
    (recalculated : r.recalculate ids now shipment.id s = .ok (report, s')) :
    report.Charges r.calculator.rates quote ∧ report.lineItems = s'.lineItemsOf shipment.id := by
  obtain ⟨charged, each, total⟩ := Calculator.quote_eq_ok quoted
  have settled : r.settle (r.refreshBasket ids now shipment request.weight request.miles s)
      shipment request.miles discount s = (report, s') :=
    Except.ok.inj ((recalculate_supposed supposes).symm.trans recalculated)
  have told : report.lineItems = s'.lineItemsOf shipment.id := by
    obtain ⟨rfl, rfl⟩ := Prod.mk.inj settled
    rfl
  have entries := entries_of_settled filed fresh (congrArg Prod.snd settled)
    (settled_of_quote accepted openCodes inRange weighed supposes each)
  rw [← told] at entries
  refine ⟨⟨?_, ?_, entries, ?_⟩, told⟩
  · obtain ⟨rfl, rfl⟩ := Prod.mk.inj settled
    rw [Calculator.shipmentCharge_congr supposes.netWeight.symm
      supposes.bookDate.symm] at charged
    show (r.linehaul shipment request.miles discount).1 = _
    rw [linehaul, charged]
  · rw [← List.forall₂_eq_eq_eq, List.forall₂_map_left_iff]
    exact each.flip.imp fun _ _ same => same.2
  · have amounts : (report.lineItems.filterMap (·.amount)).Perm
        (quote.charges.map (·.charge.fee)) := by
      simpa [List.filterMap_map, Function.comp_def] using
        entries.filterMap fun entry => entry.2.1
    rw [total, sum_int64_of_perm (amounts.map (·.val)), List.map_map]
    rfl

/-- A quote is given exactly if the recalculation of a shipment that the request supposes prices
everything, and then its report has the charges of the quote. -/
theorem quote_iff_recalculate (now now' : Timestamp)
    (accepted : RateTable.ofReference data = .ok r.calculator.rates)
    (openCodes : r.calculator.rates.OpenBaseCodes) (filed : s.Filed)
    (fresh : ids.FreshFor s shipment.id) (inRange : Quantity.InRange request.weight.val)
    (weighed : request.weight.val ≠ 0) (supposes : request.Supposes r discount s shipment) :
    ((∃ quote, r.calculator.quote request discount now' = .ok quote) ↔
      ∃ report s', r.recalculate ids now shipment.id s = .ok (report, s') ∧
        report.failures = []) ∧
    ∀ quote report s', r.calculator.quote request discount now' = .ok quote →
      r.recalculate ids now shipment.id s = .ok (report, s') →
      report.Charges r.calculator.rates quote ∧
        report.lineItems = s'.lineItemsOf shipment.id := by
  -- Both need the shipment's charge and one for each category, and no others.
  refine ⟨?_, fun quote report s' quoted recalculated =>
    charges_of_quote accepted openCodes filed fresh inRange weighed supposes quoted recalculated⟩
  have each : (∀ category ∈ BaseCategory.all, ∃ charge, r.calculator.lineItemCharge
      (request.item now' category) request.shipment discount = .ok charge) ↔
      ∀ item ∈ (r.refreshBasket ids now shipment request.weight request.miles s).items, ∀ e,
        r.calculator.outcome shipment discount item ≠ .failed e := by
    have asks : BaseCategory.all.Forall₂ (request.AsksFor now')
        (r.refreshBasket ids now shipment request.weight request.miles s).items :=
      asksFor_refreshBasket openCodes supposes
    refine forall_mem_iff_of_forall₂ asks ?_
    intro category item asks
    rw [outcome_of_asksFor accepted inRange weighed supposes asks]
    cases r.calculator.lineItemCharge (request.item now' category) request.shipment discount <;>
      simp [PricingOutcome.ofCharge]
  rw [Calculator.exists_quote_iff, each,
    Calculator.shipmentCharge_congr supposes.netWeight.symm supposes.bookDate.symm,
    ← settle_failures_eq_nil (s := s), recalculate_supposed supposes]
  constructor
  · intro complete
    exact ⟨_, _, rfl, complete⟩
  · rintro ⟨report, s', same, complete⟩
    rw [Except.ok.inj same]
    exact complete

/-- The linehaul is quoted at $4000.00 and each of the other base charges at $40.00; a shipment
with the same facts is charged just that. -/
theorem quote_iff_recalculate_sample :
    let r : Recalculator := { Sample.recalculator with calculator.rates := Sample.baseRates }
    let request : QuoteRequest := {
      originZip := "93940", destinationZip := "93940", weight := ⟨4000⟩, miles := 100
      bookDate := Sample.day 19000, pickupDate := Sample.day 19010 }
    let shipment : Shipment :=
      { Sample.shipment with id := Sample.id 2, performanceId := some (Sample.id 1) }
    let s := Sample.store.saveShipment shipment
    s.Filed ∧ request.Supposes r .full s shipment ∧ ∃ quote report s',
      r.calculator.quote request .full Sample.time = .ok quote ∧
      quote.shipmentCharge.fee = ⟨400000⟩ ∧ quote.total = ⟨420000⟩ ∧
      r.recalculate Sample.ids Sample.time shipment.id s = .ok (report, s') ∧
      report.failures = [] ∧ report.Charges r.calculator.rates quote := by
  intro r request shipment s
  have accepted : RateTable.ofReference Sample.baseReference = .ok r.calculator.rates :=
    toOption_eq_some.1 (by decide +kernel)
  have filed : s.Filed := Sample.filed_store.saveShipment _
  have supposes : request.Supposes r .full s shipment := {
    stored := by decide +kernel
    delivered := rfl
    netWeight := rfl
    bookDate := rfl
    pickupDate := rfl
    distance := ⟨Sample.address, Sample.address, rfl, rfl, rfl⟩
    carrier := ⟨Sample.id 1, Sample.performance, rfl, by decide +kernel, by decide +kernel, rfl⟩
    lineItems := by decide +kernel
    sits := by decide +kernel }
  have fresh : Sample.ids.FreshFor s shipment.id := ⟨by decide +kernel, by decide +kernel⟩
  have same := quote_iff_recalculate Sample.time Sample.time accepted (by decide +kernel) filed
    fresh (by decide +kernel) (by decide +kernel) supposes
  have given : (r.calculator.quote request .full Sample.time).toOption.map
      (fun quote => (quote.shipmentCharge.fee, quote.total)) = some (⟨400000⟩, ⟨420000⟩) := by
    decide +kernel
  obtain ⟨quote, quoted, amounts⟩ := Option.map_eq_some_iff.1 given
  have quoted := toOption_eq_some.1 quoted
  obtain ⟨report, s', recalculated, complete⟩ := same.1.1 ⟨quote, quoted⟩
  obtain ⟨fee, total⟩ := Prod.mk.inj amounts
  exact ⟨filed, supposes, quote, report, s', quoted, fee, total, recalculated, complete,
    (same.2 quote report s' quoted recalculated).1⟩

end Recalculator
end Haulage
