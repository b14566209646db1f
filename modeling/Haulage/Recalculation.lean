import Haulage.Basket
import Haulage.Request
import Haulage.Routing
import Haulage.Selection

/-! Recalculation of a delivered shipment after its facts changed: missing base charges
are made, quantities follow weight, distance and stays, and every item that can be
priced is priced again. An item that fails to price does not stop the others. -/
namespace Haulage

/-- An item, or the shipment's own linehaul charge, that could not be priced. -/
structure PricingFailure where
  /-- `none` for the shipment's linehaul charge. -/
  lineItemId : Option LineItemId
  tariffCode : String
  reason : Error
deriving DecidableEq

structure RecalculationReport where
  shipmentId : ShipmentId
  /-- All line items after the run, oldest first. -/
  lineItems : List LineItem
  created : List LineItemId
  priced : List LineItemId
  unpriced : List LineItemId
  skippedInvoiced : List LineItemId
  failures : List PricingFailure
  shipmentCharge : Option FeeAndRate
deriving DecidableEq

def RecalculationReport.isComplete (r : RecalculationReport) : Bool := r.failures.isEmpty

/-- What a run does to one item. -/
inductive PricingOutcome where
  | invoiced
  | priced (charge : FeeAndRate)
  | unpriced
  | untouched
  | failed (reason : Error)
deriving DecidableEq

namespace PricingOutcome

/-- A failed item loses its price. -/
def applyTo (item : LineItem) : PricingOutcome → LineItem
  | priced charge => item.setPrice charge
  | unpriced | failed _ => item.clearPrice
  | invoiced | untouched => item

/-- The items that are written back: all but the invoiced ones, each as its outcome
leaves it. -/
def written (results : List (LineItem × PricingOutcome)) : List LineItem :=
  (results.filter (·.2 ≠ .invoiced)).map fun (item, outcome) => outcome.applyTo item

end PricingOutcome

/-- The outcome of one item, judged by itself. -/
def Calculator.outcome (c : Calculator) (shipment : Shipment) (discount : DiscountRate)
    (item : LineItem) : PricingOutcome :=
  if item.isInvoiced then .invoiced
  else match c.rates.tariffItem item.tariffCode with
    | .error e => .failed e
    | .ok tariff =>
      match pricingAction item tariff shipment with
      | .price =>
        match c.lineItemCharge item shipment discount with
        | .ok charge => .priced charge
        | .error e => .failed e
      | .clear => .unpriced
      | .skip => .untouched

structure Recalculator where
  calculator : Calculator
  selector : Selector
  planner : Planner
  distanceTimeout : Duration := .fiveSeconds

namespace Recalculator

/-- The linked performance while it covers the shipment's dates, else a new one: the
discount, the shipment with its links, and the store. -/
def resolveDiscount (r : Recalculator) (fresh : GroupingId) (shipment : Shipment) (store : Store) :
    Except Error (DiscountRate × Shipment × Store) := do
  let bookDate ← shipment.requireBookDate
  let pickupDate ← shipment.requirePickupDate
  match (shipment.performanceId.bind store.performances.get?).filter
      (·.covers bookDate pickupDate) with
  | some performance => return (performance.linehaulRate, shipment, store)
  | none =>
    let a ← r.selector.assignCarrier fresh shipment store
    return (a.performance.linehaulRate, a.shipment, a.store)

/-- The items that the shipment must have, with current quantities. -/
def refreshBasket (r : Recalculator) (ids : IdSupply) (now : Timestamp) (shipment : Shipment)
    (weight : Pounds) (miles : Miles) (store : Store) : Basket :=
  Basket.refreshed r.calculator.rates ids shipment.id now weight miles (store.sitsOf shipment.id)
    { items := store.lineItemsOf shipment.id, created := [] }

/-- The shipment's own linehaul charge, or the failure to price it. -/
def linehaul (r : Recalculator) (shipment : Shipment) (miles : Miles) (discount : DiscountRate) :
    Option FeeAndRate × List PricingFailure :=
  match r.calculator.shipmentCharge shipment miles discount with
  | .ok charge => (some charge, [])
  | .error e => (none, [⟨none, r.calculator.linehaulCode, e⟩])

/-- Prices every item of a basket and stores them with the shipment and its own charge. -/
def settle (r : Recalculator) (basket : Basket) (shipment : Shipment) (miles : Miles)
    (discount : DiscountRate) (store : Store) : RecalculationReport × Store :=
  let (charge, linehaulFailures) := r.linehaul shipment miles discount
  let shipment := { shipment with linehaulCharge := charge }
  let results := basket.items.map fun item => (item, r.calculator.outcome shipment discount item)
  let store := (store.saveLineItems (PricingOutcome.written results)).saveShipment shipment
  let idsOf (p : PricingOutcome → Bool) := results.filterMap fun (item, outcome) =>
    if p outcome then some item.id else none
  ({ shipmentId := shipment.id
     lineItems := store.lineItemsOf shipment.id
     created := basket.created
     priced := idsOf fun | .priced _ => true | _ => false
     unpriced := idsOf (· = .unpriced)
     skippedInvoiced := idsOf (· = .invoiced)
     failures := linehaulFailures ++ results.filterMap fun
       | (item, .failed e) => some ⟨some item.id, item.tariffCode, e⟩
       | _ => none
     shipmentCharge := charge }, store)

/-- Rebuilds and prices the basket of a shipment that can be priced. -/
def run (r : Recalculator) (ids : IdSupply) (now : Timestamp) (shipment : Shipment)
    (store : Store) : Except Error (RecalculationReport × Store) := do
  if ¬ shipment.status.isPriceable then
    throw (.writeConflict (.unpriceableShipment shipment.id shipment.status))
  let weight ← shipment.requireNetWeight
  let pickup ← shipment.requirePickupAddress
  let delivery ← shipment.requireDeliveryAddress
  let miles ← r.planner.distance pickup delivery r.distanceTimeout
  let (discount, shipment, store) ← r.resolveDiscount ⟨ids 0⟩ shipment store
  return r.settle (r.refreshBasket ids now shipment weight miles store) shipment miles discount store

def recalculate (r : Recalculator) (ids : IdSupply) (now : Timestamp) (id : ShipmentId)
    (store : Store) : Except Error (RecalculationReport × Store) := do
  r.run ids now (← store.loadShipment id) store

/-- The SITs of a shipment that are delivered with it, and what is wrong with them. -/
def deliverSits (date : Date) (sits : List Sit) : Except Error (List Sit) := do
  let leaving := sits.filter fun sit => sit.status = .inSit ∧ sit.location = .destination
  let delivered ← leaving.mapM (·.deliver date)
  let errors : FieldErrors := delivered.foldl
    (fun e sit => e.appendUnder s!"storage_in_transit.{sit.id}" sit.validate) .empty
  errors.check
  return delivered

/-- Delivers a shipment in transit, and its destination SITs on the same day, and prices
everything. -/
def deliverAndPrice (r : Recalculator) (ids : IdSupply) (now : Timestamp) (id : ShipmentId)
    (date : Date) (store : Store) : Except Error (RecalculationReport × Store) := do
  let shipment ← (← store.loadShipment id).deliver date
  let delivered ← deliverSits date (store.sitsOf id)
  r.run ids now shipment (delivered.foldl Store.saveSit store)

end Recalculator
end Haulage
