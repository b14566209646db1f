import Haulage.Pricing
import Haulage.Store

/-! Accessorial requests: made for a shipment, changed, approved and deleted. Each
operation gives its line item and the new store, or an error and no new store. -/
namespace Haulage

/-- What a user fills in. -/
structure RequestForm where
  tariffCode : String
  location : LineItemLocation
  quantity1 : Quantity := .zero
  quantity2 : Quantity := .zero
  notes : Option String := none
  description : Option String := none
  reason : Option String := none
  estimateAmount : Option Cents := none
  actualAmount : Option Cents := none
  itemDimensions : Option Dimensions := none
  crateDimensions : Option Dimensions := none
  address : Option Address := none
deriving DecidableEq

namespace RequestForm

/-- Problems of the records that go with the request, under their names. -/
def validate (form : RequestForm) : FieldErrors :=
  let under (e : FieldErrors) (path : String) (errors : Option FieldErrors) : FieldErrors :=
    match errors with
    | some errors => e.appendUnder path errors
    | none => e
  let e := under .empty "item_dimensions" (form.itemDimensions.map (·.validate))
  let e := under e "crate_dimensions" (form.crateDimensions.map (·.validate))
  under e "address" (form.address.map (·.validate))

def fill (form : RequestForm) (item : LineItem) : LineItem :=
  { item with
    location := form.location
    quantity1 := form.quantity1
    quantity2 := form.quantity2
    notes := form.notes
    description := form.description
    reason := form.reason
    estimateAmount := form.estimateAmount
    actualAmount := form.actualAmount }

/-- Measurements that stay the same: none before and after, or the same sizes. -/
def sameDimensions (stored requested : Option Dimensions) : Bool :=
  match stored, requested with
  | some a, some b => a.sameSize b
  | none, none => true
  | _, _ => false

/-- The fields in which the form departs from what an approved item keeps. -/
def baselineChanges (form : RequestForm) (item : LineItem) (store : Store) : List String :=
  (if form.tariffCode ≠ item.tariffCode then ["tariff_code"] else []) ++
  (if form.location ≠ item.location then ["location"] else []) ++
  (if form.quantity1 ≠ item.quantity1 then ["quantity_1"] else []) ++
  (if form.quantity2 ≠ item.quantity2 then ["quantity_2"] else []) ++
  (if sameDimensions (item.itemDimensionsId.bind store.dimensions.get?) form.itemDimensions
    then [] else ["item_dimensions"]) ++
  (if sameDimensions (item.crateDimensionsId.bind store.dimensions.get?) form.crateDimensions
    then [] else ["crate_dimensions"])

/-- An approved item keeps its code, location, quantities and measurements. -/
def ensureBaseline (form : RequestForm) (item : LineItem) (store : Store) : Except Error Unit :=
  if item.status ≠ .approved then .ok ()
  else
    let changed := form.baselineChanges item store
    if changed = [] then .ok () else .error (.writeConflict (.frozenFields item.id changed))

/-- Puts new measurements in the place of the old ones, keeping their id; old ones that
nothing replaces are deleted. -/
def replaceDimensions (existing : Option DimensionsId) (replacement : Option Dimensions)
    (store : Store) : Except Error (Option DimensionsId × Store) :=
  match existing, replacement with
  | _, some d =>
    let d := { d with id := existing.getD d.id }
    .ok (some d.id, store.saveDimensions d)
  | some id, none => do return (none, ← ofStore (store.deleteDimensions id))
  | none, none => .ok (none, store)

/-- The same for the address of the item. -/
def replaceAddress (existing : Option AddressId) (replacement : Option Address)
    (store : Store) : Except Error (Option AddressId × Store) :=
  match existing, replacement with
  | _, some a =>
    let a := { a with id := existing.getD a.id }
    .ok (some a.id, store.saveAddress a)
  | some id, none => do return (none, ← ofStore (store.deleteAddress id))
  | none, none => .ok (none, store)

/-- Fills in the item, checks everything at once, and stores the records that go with
it. The item is not saved. -/
def applyTo (form : RequestForm) (item : LineItem) (store : Store) :
    Except Error (LineItem × Store) := do
  let item := form.fill item
  (form.validate.append item.validate).check
  let (itemDimensionsId, store) ←
    replaceDimensions item.itemDimensionsId form.itemDimensions store
  let (crateDimensionsId, store) ←
    replaceDimensions item.crateDimensionsId form.crateDimensions store
  let (addressId, store) ← replaceAddress item.addressId form.address store
  return ({ item with itemDimensionsId, crateDimensionsId, addressId }, store)

end RequestForm

/-- How a request is approved: an actual-cost item with nothing but an estimate
conditionally. -/
def LineItem.approval (item : LineItem) : LineItemAction :=
  if item.isActualCost ∧ item.estimateAmount.isSome ∧ item.actualAmount.isNone then
    .conditionallyApprove
  else .approve

/-- The discount of the performance linked to a shipment. -/
def Store.shipmentDiscount (s : Store) (shipment : Shipment) : Except Error DiscountRate := do
  let id ← require .performance (toString shipment.id) shipment.performanceId
  let performance ← require .performance (toString id) (s.performances.get? id)
  return performance.linehaulRate

namespace Calculator

def preApprovalItem (c : Calculator) (code : String) : Except Error TariffItem := do
  let tariff ← c.rates.tariffItem code
  if tariff.requiresPreApproval then return tariff
  else throw (.forbidden (.noPreApproval code))

/-- The item at its charge for the shipment's carrier. -/
def price (c : Calculator) (item : LineItem) (shipment : Shipment) (store : Store) :
    Except Error LineItem := do
  let discount ← store.shipmentDiscount shipment
  return item.setPrice (← c.lineItemCharge item shipment discount)

/-- Prices, clears or leaves the item as `pricingAction` says. -/
def applyTrigger (c : Calculator) (item : LineItem) (tariff : TariffItem) (shipment : Shipment)
    (store : Store) : Except Error LineItem :=
  match pricingAction item tariff shipment with
  | .price => c.price item shipment store
  | .clear => .ok item.clearPrice
  | .skip => .ok item

/-- Status and price of an approved actual-cost item follow its actual amount. -/
def settleActualCost (c : Calculator) (item : LineItem) (shipment : Shipment) (store : Store)
    (now : Timestamp) : Except Error LineItem := do
  if item.actualAmount.isSome then
    let item ← if shipment.status.isPriceable then c.price item shipment store else pure item
    if item.status = .conditionallyApproved then item.approve now else return item
  else
    let item := if shipment.status.isPriceable then item.clearPrice else item
    if item.status = .approved then item.conditionallyApprove now else return item

/-- The price of a changed item, and for an actual-cost item also its status. -/
def reprice (c : Calculator) (item : LineItem) (tariff : TariffItem) (shipment : Shipment)
    (store : Store) (now : Timestamp) : Except Error LineItem :=
  if item.isActualCost ∧ item.status.isPriceable then c.settleActualCost item shipment store now
  else c.applyTrigger item tariff shipment store

/-- For a delivered shipment an approved item is priced at once. -/
def priceApproved (c : Calculator) (item : LineItem) (shipment : Shipment) (store : Store) :
    Except Error LineItem :=
  if shipment.status.isPriceable ∧ item.status = .approved then c.price item shipment store
  else .ok item

def createRequest (c : Calculator) (id : LineItemId) (now : Timestamp) (shipmentId : ShipmentId)
    (form : RequestForm) (store : Store) : Except Error (LineItem × Store) := do
  let _ ← c.preApprovalItem form.tariffCode
  let _ ← store.loadShipment shipmentId
  let (item, store) ←
    form.applyTo (.submitted id shipmentId form.tariffCode form.location now) store
  return (item, store.saveLineItem item)

/-- Changes a request. Approved items are frozen, but an open actual-cost item takes new
amounts, and its status and price follow the actual one. -/
def updateLineItem (c : Calculator) (now : Timestamp) (id : LineItemId) (form : RequestForm)
    (store : Store) : Except Error (LineItem × Store) := do
  let item ← store.loadLineItem id
  let shipment ← store.loadShipment item.shipmentId
  item.ensureMutable
  form.ensureBaseline item store
  let tariff ← c.preApprovalItem form.tariffCode
  let (item, store) ← form.applyTo { item with tariffCode := form.tariffCode } store
  let item ← c.reprice item tariff shipment store now
  return (item, store.saveLineItem item)

/-- Approves a request, and prices it if its shipment is delivered. -/
def approveLineItem (c : Calculator) (now : Timestamp) (id : LineItemId) (store : Store) :
    Except Error (LineItem × Store) := do
  let item ← store.loadLineItem id
  let _ ← c.preApprovalItem item.tariffCode
  let shipment ← store.loadShipment item.shipmentId
  let item ← c.priceApproved (← item.apply item.approval now) shipment store
  return (item, store.saveLineItem item)

/-- Deletes a request with its measurements and address. Invoiced items stay, and so do
mandatory ones. -/
def deleteLineItem (c : Calculator) (id : LineItemId) (store : Store) :
    Except Error (LineItem × Store) := do
  let item ← store.loadLineItem id
  item.ensureDeletable
  let _ ← c.preApprovalItem item.tariffCode
  let store ← ofStore (store.deleteLineItem item.id)
  let store := item.ownedDimensions.foldl
    (fun s id => { s with dimensions := s.dimensions.erase id }) store
  let store := item.addressId.elim store
    fun id => { store with addresses := store.addresses.erase id }
  return (item, store)

end Calculator
end Haulage
