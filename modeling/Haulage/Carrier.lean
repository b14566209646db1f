import Haulage.Calendar.Date
import Haulage.Identifier
import Haulage.Units

/-! Carriers, the traffic distribution groupings they serve, and their standing in each
of them for a period. -/
namespace Haulage

structure Carrier where
  id : CarrierId
  name : String
  enrolled : Bool
deriving DecidableEq, Inhabited

/-- A carrier's standing within one grouping for one performance period. -/
structure CarrierPerformance where
  id : PerformanceId
  groupingId : GroupingId
  carrierId : CarrierId
  linehaulRate : DiscountRate
  offerCount : UInt32
  bestValueScore : Decimal
  periodStart : Date
  periodEnd : Date
  cycleStart : Date
  cycleEnd : Date
deriving DecidableEq

/-- The performance period covers the book date and the rate cycle the pickup date,
each with both its ends. -/
def CarrierPerformance.covers (p : CarrierPerformance) (bookDate pickupDate : Date) : Bool :=
  p.periodStart ≤ bookDate && bookDate ≤ p.periodEnd &&
    p.cycleStart ≤ pickupDate && pickupDate ≤ p.cycleEnd

structure PerformanceCandidate where
  performance : CarrierPerformance
  carrierEnrolled : Bool
deriving DecidableEq

/-- What a grouping is unique on. -/
structure GroupingKey where
  sourceRateArea : String
  destinationRegion : String
  codeOfService : String
deriving DecidableEq, Inhabited

namespace GroupingKey

instance : ToString GroupingKey :=
  ⟨fun k => k.sourceRateArea ++ "/" ++ k.destinationRegion ++ "/" ++ k.codeOfService⟩

instance : Ord GroupingKey :=
  ⟨compareLex (compareOn sourceRateArea)
    (compareLex (compareOn destinationRegion) (compareOn codeOfService))⟩

instance : Std.TransOrd GroupingKey :=
  inferInstanceAs (Std.TransCmp (compareLex (compareOn sourceRateArea)
    (compareLex (compareOn destinationRegion) (compareOn codeOfService))))

instance : Std.LawfulEqOrd GroupingKey where
  eq_of_compare {a b} h := by
    obtain ⟨hs, h⟩ := compareLex_eq_eq.1 h
    obtain ⟨hd, hc⟩ := compareLex_eq_eq.1 h
    have : a.sourceRateArea = b.sourceRateArea := Std.compare_eq_iff_eq.1 hs
    have : a.destinationRegion = b.destinationRegion := Std.compare_eq_iff_eq.1 hd
    have : a.codeOfService = b.codeOfService := Std.compare_eq_iff_eq.1 hc
    cases a; cases b; simp_all

end GroupingKey

/-- A rate area of origin, a region of destination and a code of service. -/
structure Grouping where
  id : GroupingId
  key : GroupingKey
deriving DecidableEq, Inhabited

end Haulage
