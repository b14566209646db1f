import Haulage.Rates
import Haulage.Store

/-! Which carrier moves a shipment: of the performances in its grouping the one with the
fewest offers so far, then the best score, then the lowest id. Only enrolled carriers
count, and only performances that cover the shipment's dates. -/
namespace Haulage

/-- The code of service of household moves. -/
def defaultCodeOfService : String := "D"

/-- Fewest offers first, then the highest score, then the lowest id. -/
def comparePerformances (a b : CarrierPerformance) : Ordering :=
  (compare a.offerCount.toNat b.offerCount.toNat).then
    ((b.bestValueScore.cmp a.bestValueScore).then (compare a.id b.id))

/-- The candidate may be chosen for this grouping and these dates. -/
def PerformanceCandidate.isEligible (c : PerformanceCandidate) (groupingId : GroupingId)
    (bookDate pickupDate : Date) : Bool :=
  c.carrierEnrolled && c.performance.groupingId = groupingId &&
    c.performance.covers bookDate pickupDate

/-- The first of the best performances. -/
def best? (ps : List CarrierPerformance) : Option CarrierPerformance :=
  ps.foldl (fun best p => if best.all (comparePerformances p · = .lt) then some p else best) none

def selectBest? (candidates : List PerformanceCandidate) (groupingId : GroupingId)
    (bookDate pickupDate : Date) : Option CarrierPerformance :=
  best? ((candidates.filter (·.isEligible groupingId bookDate pickupDate)).map (·.performance))

/-- Where groupings are kept: a look-up by key and an insertion that may be refused. -/
structure GroupingShelf (σ : Type) where
  find : GroupingKey → σ → Option Grouping × σ
  insert : Grouping → σ → Except StoreError σ

def Store.groupingShelf : GroupingShelf Store where
  find key s := (s.groupingByKey? key, s)
  insert g s := s.insertGrouping g

/-- How far a caller is that wants the grouping of a key. Between two of its steps other
callers may act on the shelf. -/
inductive GroupingFetch where
  | start
  /-- The look-up found nothing. -/
  | missed
  /-- The insertion met another caller's grouping. -/
  | taken
  | done (outcome : Except Error Grouping)

namespace GroupingFetch

/-- One access to the shelf: look up, else insert under `fresh`, else look up again. -/
def step {σ : Type} (shelf : GroupingShelf σ) (key : GroupingKey) (fresh : GroupingId) :
    GroupingFetch → σ → GroupingFetch × σ
  | start, s =>
    match shelf.find key s with
    | (some g, s) => (done (.ok g), s)
    | (none, s) => (missed, s)
  | missed, s =>
    match shelf.insert ⟨fresh, key⟩ s with
    | .ok s => (done (.ok ⟨fresh, key⟩), s)
    | .error e => (if e.isConflict then taken else done (.error (.store e)), s)
  | taken, s =>
    match shelf.find key s with
    | (found, s) => (done (require .grouping (toString key) found), s)
  | done outcome, s => (done outcome, s)

def outcome (key : GroupingKey) : GroupingFetch → Except Error Grouping
  | done o => o
  | _ => .error (.notFound .grouping (toString key))

end GroupingFetch

/-- The grouping of a key, made under `fresh` if there is none: three steps end every
fetch. -/
def fetchOrCreateGrouping {σ : Type} (shelf : GroupingShelf σ) (key : GroupingKey)
    (fresh : GroupingId) (s : σ) : Except Error (Grouping × σ) := do
  let (p, s) := GroupingFetch.start.step shelf key fresh s
  let (p, s) := p.step shelf key fresh s
  let (p, s) := p.step shelf key fresh s
  return (← p.outcome key, s)

/-- A rate table for the zones, and the code of service of the moves. -/
structure Selector where
  rates : RateTable
  codeOfService : String := defaultCodeOfService
deriving DecidableEq

namespace RateTable

/-- The key of a move between two postal codes. -/
def groupingKey (t : RateTable) (origin destination codeOfService : String) :
    Except Error GroupingKey := do
  let sourceRateArea ← t.rateArea origin
  let destinationRegion ← t.region destination
  return { sourceRateArea, destinationRegion, codeOfService }

end RateTable

namespace Selector

def groupingKeyFor (c : Selector) (shipment : Shipment) : Except Error GroupingKey := do
  let pickup ← shipment.requirePickupAddress
  let delivery ← shipment.requireDeliveryAddress
  c.rates.groupingKey pickup.postalCode delivery.postalCode c.codeOfService

end Selector

namespace Store

def selectForGrouping (s : Store) (id : GroupingId) (bookDate pickupDate : Date) :
    Except Error CarrierPerformance :=
  require .performance s!"grouping {id} book {bookDate} pickup {pickupDate}"
    (selectBest? (s.candidatesFor id) id bookDate pickupDate)

def selectCarrier (s : Store) (key : GroupingKey) (bookDate pickupDate : Date) :
    Except Error CarrierPerformance := do
  let grouping ← require .grouping (toString key) (s.groupingByKey? key)
  s.selectForGrouping grouping.id bookDate pickupDate

end Store

/-- A shipment's carrier, the shipment linked to it, and the store, which may hold a new
grouping. -/
structure Assignment where
  performance : CarrierPerformance
  shipment : Shipment
  store : Store

namespace Selector

/-- Finds or makes the shipment's grouping, selects a performance and links both to the
shipment. The shipment is not saved. -/
def assignCarrier (c : Selector) (fresh : GroupingId) (shipment : Shipment) (store : Store) :
    Except Error Assignment := do
  let key ← c.groupingKeyFor shipment
  let (grouping, store) ← fetchOrCreateGrouping Store.groupingShelf key fresh store
  let bookDate ← shipment.requireBookDate
  let pickupDate ← shipment.requirePickupDate
  let performance ← store.selectForGrouping grouping.id bookDate pickupDate
  return {
    performance, store
    shipment := { shipment with
      groupingId := some grouping.id, performanceId := some performance.id } }

end Selector
end Haulage
