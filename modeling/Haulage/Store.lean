import Haulage.Carrier
import Haulage.LineItem
import Haulage.Shipment
import Haulage.Sit

/-! The records that pricing reads and writes, as one value. Operations return the new
store, so a caller that meets an error half-way still holds the store it began with. -/
namespace Haulage

/-- Flat lists of records, as a store is seeded and shown. -/
structure Records where
  shipments : List Shipment := []
  lineItems : List LineItem := []
  dimensions : List Dimensions := []
  addresses : List Address := []
  sits : List Sit := []
  carriers : List Carrier := []
  performances : List CarrierPerformance := []
  groupings : List Grouping := []
deriving DecidableEq, Inhabited

/-- Tables by id, and the index that keeps grouping keys unique. -/
structure Store where
  shipments : SortedMap ShipmentId Shipment := .empty
  lineItems : SortedMap LineItemId LineItem := .empty
  dimensions : SortedMap DimensionsId Dimensions := .empty
  addresses : SortedMap AddressId Address := .empty
  sits : SortedMap SitId Sit := .empty
  carriers : SortedMap CarrierId Carrier := .empty
  performances : SortedMap PerformanceId CarrierPerformance := .empty
  groupings : SortedMap GroupingId Grouping := .empty
  groupingIndex : SortedMap GroupingKey GroupingId := .empty
deriving DecidableEq, Inhabited

/-- Puts `x` before the first element that is no older. -/
def insertByAge {α : Type} (created : α → Timestamp) (x : α) : List α → List α
  | [] => [x]
  | y :: rest =>
    if (compare (created x) (created y)).isLE then x :: y :: rest
    else y :: insertByAge created x rest

/-- Oldest first; elements of one age keep their order. -/
def oldestFirst {α : Type} (created : α → Timestamp) (xs : List α) : List α :=
  xs.foldr (insertByAge created) []

namespace Store

def empty : Store := {}

def insertGrouping (s : Store) (g : Grouping) : Except StoreError Store :=
  if s.groupingIndex.contains g.key then
    .error (.conflict s!"traffic distribution grouping {g.key} already exists")
  else
    .ok { s with
      groupingIndex := s.groupingIndex.insert g.key g.id
      groupings := s.groupings.insert g.id g }

/-- The grouping that the index names for a key. -/
def groupingByKey? (s : Store) (key : GroupingKey) : Option Grouping :=
  (s.groupingIndex.get? key).bind s.groupings.get?

/-- A store of these records. A later record replaces an earlier one with its id, but
two groupings may not share a key. -/
def ofRecords (r : Records) : Except StoreError Store := do
  let s ← r.groupings.foldlM insertGrouping empty
  return { s with
    shipments := .ofList (r.shipments.map fun x => (x.id, x))
    lineItems := .ofList (r.lineItems.map fun x => (x.id, x))
    dimensions := .ofList (r.dimensions.map fun x => (x.id, x))
    addresses := .ofList (r.addresses.map fun x => (x.id, x))
    sits := .ofList (r.sits.map fun x => (x.id, x))
    carriers := .ofList (r.carriers.map fun x => (x.id, x))
    performances := .ofList (r.performances.map fun x => (x.id, x)) }

/-- All records by id; line items and SITs by age first. -/
def snapshot (s : Store) : Records where
  shipments := s.shipments.values
  lineItems := oldestFirst LineItem.createdAt s.lineItems.values
  dimensions := s.dimensions.values
  addresses := s.addresses.values
  sits := oldestFirst Sit.createdAt s.sits.values
  carriers := s.carriers.values
  performances := s.performances.values
  groupings := s.groupings.values

def lineItemsOf (s : Store) (id : ShipmentId) : List LineItem :=
  oldestFirst LineItem.createdAt (s.lineItems.values.filter (·.shipmentId = id))

def sitsOf (s : Store) (id : ShipmentId) : List Sit :=
  oldestFirst Sit.createdAt (s.sits.values.filter (·.shipmentId = id))

/-- The performances of a grouping, each with its carrier's enrollment; a carrier that
is not stored is not enrolled. -/
def candidatesFor (s : Store) (id : GroupingId) : List PerformanceCandidate :=
  (s.performances.values.filter (·.groupingId = id)).map fun p =>
    { performance := p, carrierEnrolled := (s.carriers.get? p.carrierId).any (·.enrolled) }

def loadShipment (s : Store) (id : ShipmentId) : Except Error Shipment :=
  require .shipment (toString id) (s.shipments.get? id)

def loadLineItem (s : Store) (id : LineItemId) : Except Error LineItem :=
  require .lineItem (toString id) (s.lineItems.get? id)

def loadSit (s : Store) (id : SitId) : Except Error Sit :=
  require .sit (toString id) (s.sits.get? id)

def saveShipment (s : Store) (x : Shipment) : Store :=
  { s with shipments := s.shipments.insert x.id x }

def saveLineItem (s : Store) (x : LineItem) : Store :=
  { s with lineItems := s.lineItems.insert x.id x }

def saveLineItems (s : Store) (xs : List LineItem) : Store := xs.foldl saveLineItem s

def saveDimensions (s : Store) (x : Dimensions) : Store :=
  { s with dimensions := s.dimensions.insert x.id x }

def saveAddress (s : Store) (x : Address) : Store :=
  { s with addresses := s.addresses.insert x.id x }

def saveSit (s : Store) (x : Sit) : Store :=
  { s with sits := s.sits.insert x.id x }

/-- Erases what is there, and refuses what is not. -/
def eraseFrom {e : Entity} {α : Type} (table : SortedMap (Id e) α) (id : Id e) (what : String) :
    Except StoreError (SortedMap (Id e) α) :=
  if table.contains id then .ok (table.erase id) else .error (.notFound s!"{what} {id}")

def deleteLineItem (s : Store) (id : LineItemId) : Except StoreError Store := do
  return { s with lineItems := ← eraseFrom s.lineItems id "line item" }

def deleteDimensions (s : Store) (id : DimensionsId) : Except StoreError Store := do
  return { s with dimensions := ← eraseFrom s.dimensions id "dimensions" }

def deleteAddress (s : Store) (id : AddressId) : Except StoreError Store := do
  return { s with addresses := ← eraseFrom s.addresses id "address" }

def deleteSit (s : Store) (id : SitId) : Except StoreError Store := do
  return { s with sits := ← eraseFrom s.sits id "storage in transit" }

end Store

/-- A store's refusal as an error of the operation that asked. -/
def ofStore {α : Type} : Except StoreError α → Except Error α
  | .ok a => .ok a
  | .error e => .error (.store e)

end Haulage
