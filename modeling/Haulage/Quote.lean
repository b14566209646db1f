import Haulage.Pricing

/-! Prices of the base charges for a shipment that is only supposed, as a check on
reference data before real shipments use it. -/
namespace Haulage

structure QuoteRequest where
  originZip : String
  destinationZip : String
  weight : Pounds
  bookDate : Date
  pickupDate : Date
  miles : Miles
deriving DecidableEq

structure QuotedCharge where
  category : BaseCategory
  charge : FeeAndRate
deriving DecidableEq

structure Quote where
  discount : DiscountRate
  shipmentCharge : FeeAndRate
  charges : List QuotedCharge
  total : Cents
deriving DecidableEq

namespace QuoteRequest

/-- An address of which only the postal code counts. -/
def zipOnly (postalCode : String) : Address :=
  { id := default, street1 := "", street2 := none, city := "", state := "", postalCode }

/-- A delivered shipment with the facts of the request and no record behind it. -/
def shipment (r : QuoteRequest) : Shipment where
  id := default
  status := .delivered
  netWeight := some r.weight
  pickupAddress := some (zipOnly r.originZip)
  deliveryAddress := some (zipOnly r.destinationZip)
  bookDate := some r.bookDate
  requestedPickupDate := some r.pickupDate
  actualPickupDate := none
  actualDeliveryDate := none
  groupingId := none
  performanceId := none
  linehaulCharge := none

end QuoteRequest

namespace LineItem

/-- Sets the quantities of a base charge: the weight, and the miles where they count. -/
def withBaseQuantities (item : LineItem) (category : BaseCategory) (weight : Pounds)
    (miles : Miles) : LineItem :=
  { item with
    quantity1 := .ofUnits weight.val
    quantity2 := if category.isByMile then .ofUnits (Int64.ofNat miles.toNat) else .zero }

end LineItem

namespace Calculator

def quotedCharge (c : Calculator) (r : QuoteRequest) (discount : DiscountRate) (now : Timestamp)
    (category : BaseCategory) : Except Error QuotedCharge := do
  let item := (LineItem.base default r.shipment.id category now).withBaseQuantities
    category r.weight r.miles
  return { category, charge := ← c.lineItemCharge item r.shipment discount }

/-- The linehaul charge and all base charges; the first that cannot be priced fails the
quote. -/
def quote (c : Calculator) (r : QuoteRequest) (discount : DiscountRate) (now : Timestamp) :
    Except Error Quote := do
  let shipmentCharge ← c.shipmentCharge r.shipment r.miles discount
  let charges ← BaseCategory.all.mapM (c.quotedCharge r discount now)
  return {
    discount, shipmentCharge, charges
    total := ⟨(charges.map (·.charge.fee.val)).sum⟩ }

end Calculator
end Haulage
