import Haulage.Calendar.Timestamp
import Haulage.Error
import Haulage.Tariff

/-! Line items of a shipment: their approval, who may still change them, and what there
is to price. -/
namespace Haulage

namespace LineItemStatus

/-- The status after an action. Items leave `submitted` once; only the actual-cost
code moves between the two approved statuses. -/
def transition (s : LineItemStatus) (action : LineItemAction) (code : String) :
    Except Error LineItemStatus :=
  match s, action with
  | submitted, .approve => .ok approved
  | submitted, .conditionallyApprove => .ok conditionallyApproved
  | conditionallyApproved, .approve =>
    if code = actualCostCode then .ok approved else refuse
  | approved, .conditionallyApprove =>
    if code = actualCostCode then .ok conditionallyApproved else refuse
  | _, _ => refuse
where
  refuse : Except Error LineItemStatus := .error (.invalidTransition s.name action.name)

end LineItemStatus

/-- Measurements of an item or its crate, owned by one line item. -/
structure Dimensions where
  id : DimensionsId
  length : ThousandthInches
  width : ThousandthInches
  height : ThousandthInches
deriving DecidableEq, Inhabited

namespace Dimensions

def sameSize (a b : Dimensions) : Bool :=
  a.length = b.length ∧ a.width = b.width ∧ a.height = b.height

def validate (d : Dimensions) : FieldErrors :=
  FieldErrors.empty
    |>.addIf (d.length.val ≤ 0) "length" "must be greater than zero"
    |>.addIf (d.width.val ≤ 0) "width" "must be greater than zero"
    |>.addIf (d.height.val ≤ 0) "height" "must be greater than zero"

end Dimensions

structure LineItem where
  id : LineItemId
  shipmentId : ShipmentId
  tariffCode : String
  location : LineItemLocation
  quantity1 : Quantity
  quantity2 : Quantity
  notes : Option String
  status : LineItemStatus
  invoiceId : Option InvoiceId
  estimateAmount : Option Cents
  actualAmount : Option Cents
  amount : Option Cents
  appliedRate : Option Millicents
  submittedDate : Timestamp
  approvedDate : Option Timestamp
  itemDimensionsId : Option DimensionsId
  crateDimensionsId : Option DimensionsId
  addressId : Option AddressId
  sitId : Option SitId
  description : Option String
  reason : Option String
  createdAt : Timestamp
deriving DecidableEq

namespace LineItem

/-- A request submitted now. -/
def submitted (id : LineItemId) (shipmentId : ShipmentId) (code : String)
    (location : LineItemLocation) (now : Timestamp) : LineItem where
  id := id
  shipmentId := shipmentId
  tariffCode := code
  location := location
  quantity1 := .zero
  quantity2 := .zero
  notes := none
  status := .submitted
  invoiceId := none
  estimateAmount := none
  actualAmount := none
  amount := none
  appliedRate := none
  submittedDate := now
  approvedDate := none
  itemDimensionsId := none
  crateDimensionsId := none
  addressId := none
  sitId := none
  description := none
  reason := none
  createdAt := now

/-- An item the system makes is approved from the start. -/
def approvedNow (id : LineItemId) (shipmentId : ShipmentId) (code : String)
    (location : LineItemLocation) (now : Timestamp) : LineItem :=
  { submitted id shipmentId code location now with
    status := .approved, approvedDate := some now }

def base (id : LineItemId) (shipmentId : ShipmentId) (category : BaseCategory)
    (now : Timestamp) : LineItem :=
  approvedNow id shipmentId category.code category.location now

/-- Applies an action; the time of the first approval stays. -/
def apply (item : LineItem) (action : LineItemAction) (now : Timestamp) : Except Error LineItem := do
  let status ← item.status.transition action item.tariffCode
  return { item with status, approvedDate := some (item.approvedDate.getD now) }

def approve (item : LineItem) (now : Timestamp) : Except Error LineItem := item.apply .approve now

def conditionallyApprove (item : LineItem) (now : Timestamp) : Except Error LineItem :=
  item.apply .conditionallyApprove now

def isInvoiced (item : LineItem) : Bool := item.invoiceId.isSome

def isActualCost (item : LineItem) : Bool := item.tariffCode = actualCostCode

/-- An approved actual-cost item with an estimate takes its actual amount until it is
invoiced. -/
def isOpenActualCost (item : LineItem) : Bool :=
  item.isActualCost && item.estimateAmount.isSome && !item.isInvoiced

/-- Guard of changes to quantities, location, notes and amounts. -/
def ensureMutable (item : LineItem) : Except Error Unit :=
  if item.isInvoiced then .error (.forbidden (.invoicedItem item.id))
  else if item.status = .approved ∧ ¬ item.isOpenActualCost then
    .error (.writeConflict (.approvedItem item.id))
  else .ok ()

def ensureDeletable (item : LineItem) : Except Error Unit :=
  if item.isInvoiced then .error (.forbidden (.invoicedItemKept item.id)) else .ok ()

/-- There is something to price: an amount for an actual-cost item, a quantity for any
other. -/
def hasPricingBasis (item : LineItem) (tariff : TariffItem) : Bool :=
  if tariff.isActualCost then item.actualAmount.isSome || item.estimateAmount.isSome
  else !item.quantity1.isZero

def setPrice (item : LineItem) (charge : FeeAndRate) : LineItem :=
  { item with amount := some charge.fee, appliedRate := some charge.rate }

def clearPrice (item : LineItem) : LineItem := { item with amount := none, appliedRate := none }

def ownedDimensions (item : LineItem) : List DimensionsId :=
  item.itemDimensionsId.toList ++ item.crateDimensionsId.toList

def validate (item : LineItem) : FieldErrors :=
  FieldErrors.empty
    |>.addIf (isBlankText item.tariffCode) "tariff_code" "can not be blank"
    |>.addIf (item.quantity1.val < 0) "quantity_1" "can not be negative"
    |>.addIf (item.quantity2.val < 0) "quantity_2" "can not be negative"
    |>.addIf (item.estimateAmount.any (·.val < 0)) "estimate_amount_cents" "can not be negative"
    |>.addIf (item.actualAmount.any (·.val < 0)) "actual_amount_cents" "can not be negative"

end LineItem
end Haulage
