import Haulage.Address
import Haulage.Error

/-! Shipments, the facts that pricing needs of them, and their delivery. -/
namespace Haulage

structure Shipment where
  id : ShipmentId
  status : ShipmentStatus
  netWeight : Option Pounds
  pickupAddress : Option Address
  deliveryAddress : Option Address
  bookDate : Option Date
  requestedPickupDate : Option Date
  actualPickupDate : Option Date
  actualDeliveryDate : Option Date
  groupingId : Option GroupingId
  performanceId : Option PerformanceId
  /-- The linehaul charge of the last pricing run. -/
  linehaulCharge : Option FeeAndRate
deriving DecidableEq, Inhabited

namespace Shipment

/-- A fact of the shipment, or the complaint that it is missing. -/
def fact {α : Type} (field text : String) : Option α → Except Error α
  | some a => .ok a
  | none => .error (.invalid field text)

def requireNetWeight (s : Shipment) : Except Error Pounds :=
  fact "net_weight" "is required for pricing" s.netWeight

def requireBookDate (s : Shipment) : Except Error Date :=
  fact "book_date" "is required for pricing" s.bookDate

def requirePickupDate (s : Shipment) : Except Error Date :=
  fact "requested_pickup_date" "is required for carrier selection" s.requestedPickupDate

def requirePickupAddress (s : Shipment) : Except Error Address :=
  fact "pickup_address" "is required" s.pickupAddress

def requireDeliveryAddress (s : Shipment) : Except Error Address :=
  fact "delivery_address" "is required" s.deliveryAddress

/-- Records the delivery of a shipment in transit. -/
def deliver (s : Shipment) (date : Date) : Except Error Shipment :=
  if s.status = .inTransit then
    .ok { s with status := .delivered, actualDeliveryDate := some date }
  else .error (.invalidTransition s.status.name "deliver")

end Shipment
end Haulage
