import Haulage.Proofs.Filing
import Haulage.Recalculation

/-! A small stock of records: a delivered shipment that has no carrier yet, a carrier that
covers its dates, a stay in storage that is over, and two invoiced line items. -/
namespace Haulage.Sample

def id {entity : Entity} (n : Nat) : Id entity := ⟨.ofNat n⟩

def day (n : Nat) (h : (n : Int) ≤ 95026236 := by decide) : Date := ⟨n, by omega, h⟩

def time : Timestamp := ⟨day 19000, 0, 0, by decide, by decide⟩

def address : Address where
  id := id 1
  street1 := "1 Main Street"
  street2 := none
  city := "Monterey"
  state := "CA"
  postalCode := "93940"

def shipment : Shipment where
  id := id 1
  status := .delivered
  netWeight := some ⟨4000⟩
  pickupAddress := some address
  deliveryAddress := some address
  bookDate := some (day 19000)
  requestedPickupDate := some (day 19010)
  actualPickupDate := none
  actualDeliveryDate := none
  groupingId := none
  performanceId := none
  linehaulCharge := none

def performance : CarrierPerformance where
  id := id 1
  groupingId := id 1
  carrierId := id 1
  linehaulRate := .full
  offerCount := 0
  bestValueScore := .one
  periodStart := day 18000
  periodEnd := day 20000
  cycleStart := day 18000
  cycleEnd := day 20000

def sit : Sit where
  id := id 1
  shipmentId := id 1
  sitNumber := none
  status := .delivered
  location := .destination
  estimatedStartDate := day 19020
  authorizedStartDate := none
  actualStartDate := some (day 19020)
  outDate := some (day 19023)
  notes := none
  authorizationNotes := none
  warehouseId := "W1"
  warehouseName := "Warehouse"
  warehouseAddressId := id 1
  warehousePhone := none
  warehouseEmail := none
  createdAt := time

/-- Another shipment with the same facts. -/
def otherShipment : Shipment := { shipment with id := id 2 }

/-- The stay, entered for the other shipment. -/
def movedSit : Sit := { sit with shipmentId := id 2 }

/-- The fuel surcharge, invoiced. -/
def billed : LineItem :=
  { LineItem.base (id 1) (id 1) .fuelSurcharge time with
    invoiceId := some (id 1), amount := some ⟨12000⟩, appliedRate := some ⟨3000⟩ }

/-- A third party's service, invoiced at its estimate when the actual amount came in. -/
def estimated : LineItem :=
  { LineItem.submitted (id 2) (id 1) "35A" .origin time with
    status := .conditionallyApproved, approvedDate := some time
    estimateAmount := some ⟨5000⟩, actualAmount := some ⟨7500⟩
    invoiceId := some (id 1), amount := some ⟨5000⟩, appliedRate := some ⟨100000⟩ }

/-- A request for crating that nobody has approved. -/
def crating : LineItem :=
  { LineItem.submitted (id 3) (id 1) "105B" .origin time with quantity1 := .ofUnits 2 }

/-- A request for a third party's service, with an estimate only. -/
def estimate : LineItem :=
  { LineItem.submitted (id 3) (id 1) "35A" .origin time with estimateAmount := some ⟨5000⟩ }

def tariffItem (code : String) (requiresPreApproval : Bool) (measurementUnit : MeasurementUnit) :
    TariffItem where
  code := code
  description := code
  requiresPreApproval := requiresPreApproval
  discountType := .linehaul
  measurementUnit := measurementUnit

/-- A rate at every weight and distance. -/
def tariffRate (code : String) : TariffRate where
  code := code
  dateLower := day 18000
  dateUpper := day 20000
  weightLower := 0
  weightUpper := 100000
  milesLower := none
  milesUpper := none
  rate := ⟨100000⟩

def reference : ReferenceData where
  tariffItems := [
    tariffItem "LHS" false .weightDistance, tariffItem "105B" true .volume,
    tariffItem "185A" false .weight, tariffItem "185B" false .days,
    tariffItem "35A" true .actualCost]
  rates := ["LHS", "105B", "185A", "185B", "35A"].map tariffRate
  rateAreas := .ofList [("939", "US87")]
  regions := .ofList [("939", "REGION 1")]

def rates : RateTable := (RateTable.ofReference reference).toOption.getD default

/-- A tariff that has unpacking approved in advance. -/
def flaggedReference : ReferenceData :=
  { reference with tariffItems := tariffItem "105C" true .weight :: reference.tariffItems }

def flaggedRates : RateTable := (RateTable.ofReference flaggedReference).toOption.getD default

/-- A tariff with all base charges and nothing else. -/
def baseReference : ReferenceData :=
  let codes := BaseCategory.all.map (·.code)
  { reference with
    tariffItems := codes.map fun code =>
      tariffItem code false (if code = "LHS" then .weightDistance else .weight)
    rates := codes.map tariffRate }

def baseRates : RateTable := (RateTable.ofReference baseReference).toOption.getD default

def records : Records where
  shipments := [shipment]
  lineItems := [billed, estimated]
  addresses := [address]
  sits := [sit]
  carriers := [{ id := id 1, name := "Carrier", enrolled := true }]
  performances := [performance]
  groupings := [{ id := id 1, key := ⟨"US87", "REGION 1", "D"⟩ }]

def store : Store := (Store.ofRecords records).toOption.getD default

theorem filed_store : store.Filed := Store.filed_ofRecords (r := records) (by rfl)

/-- The store once the shipment has its carrier. -/
def linked : Store := store.saveShipment { shipment with performanceId := some (id 1) }

/-- The store with the shipment on its way and a request for it. -/
def onTheWay (request : LineItem) : Store :=
  (store.saveShipment { shipment with status := .inTransit }).saveLineItem request

theorem filed_onTheWay (request : LineItem) : (onTheWay request).Filed :=
  (filed_store.saveShipment _).saveLineItem request

def recalculator : Recalculator where
  calculator := { rates }
  selector := { rates }
  planner := .fixed 100

def ids : IdSupply := fun n => .ofNat (n + 10)

/-- Ids for a second run. -/
def laterIds : IdSupply := fun n => .ofNat (n + 30)

end Haulage.Sample
