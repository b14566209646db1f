import Haulage.Calendar.Date
import Haulage.Status
import Haulage.Units

/-! Tariff reference data: chargeable items, the rows of the rate table, and the
charges that every priced shipment carries once. -/
namespace Haulage

/-- Billed by a third party at actual cost: the one code whose approved items may go
back to conditional approval. -/
def actualCostCode : String := "35A"

/-- First day of a SIT, and warehouse handling. -/
def sitFirstDayCode : String := "185A"

/-- Each further day of a SIT. -/
def sitAdditionalDaysCode : String := "185B"

/-- Which discount a tariff item takes; set per item, never derived from its code. -/
inductive DiscountType where
  | linehaul | sit | nonDiscountable
deriving DecidableEq, Inhabited

namespace DiscountType

def all : List DiscountType := [linehaul, sit, nonDiscountable]

def name : DiscountType → String
  | linehaul => "LINEHAUL"
  | sit => "SIT"
  | nonDiscountable => "NON_DISCOUNTABLE"

end DiscountType

/-- What a rate is charged per. -/
inductive MeasurementUnit where
  /-- Per hundredweight; the first quantity is pounds. -/
  | weight
  /-- Per hundredweight-mile; pounds and miles, banded by distance. -/
  | weightDistance
  /-- Per cubic foot. -/
  | volume
  | each
  /-- Per mile, banded by distance. -/
  | distance
  /-- Per hundredweight-day; pounds and days. -/
  | days
  | flat
  /-- Per dollar of the actual, or else the estimated, amount. -/
  | actualCost
deriving DecidableEq, Inhabited

namespace MeasurementUnit

def all : List MeasurementUnit :=
  [weight, weightDistance, volume, each, distance, days, flat, actualCost]

def name : MeasurementUnit → String
  | weight => "WEIGHT"
  | weightDistance => "WEIGHT_DISTANCE"
  | volume => "VOLUME"
  | each => "EACH"
  | distance => "DISTANCE"
  | days => "DAYS"
  | flat => "FLAT"
  | actualCost => "ACTUAL_COST"

end MeasurementUnit

structure TariffItem where
  code : String
  description : String
  requiresPreApproval : Bool
  discountType : DiscountType
  measurementUnit : MeasurementUnit
deriving DecidableEq, Inhabited

def TariffItem.isActualCost (t : TariffItem) : Bool := t.code = actualCostCode

/-- One row of the rate table. Its ranges include their lower ends and not their upper
ones; a distance range may be open at either end. -/
structure TariffRate where
  code : String
  dateLower : Date
  dateUpper : Date
  weightLower : Int64
  weightUpper : Int64
  milesLower : Option Miles
  milesUpper : Option Miles
  rate : Millicents
deriving DecidableEq

namespace TariffRate

/-- A row with a distance range needs miles, and within that range. -/
def coversMiles (r : TariffRate) (miles : Option Miles) : Bool :=
  match r.milesLower, r.milesUpper with
  | none, none => true
  | lower, upper => miles.any fun m => lower.all (· ≤ m) && upper.all (m < ·)

def applies (r : TariffRate) (code : String) (weight : Pounds) (date : Date)
    (miles : Option Miles) : Bool :=
  r.code = code && r.dateLower ≤ date && date < r.dateUpper &&
    r.weightLower ≤ weight.val && weight.val < r.weightUpper && r.coversMiles miles

end TariffRate

/-- The charges that every priced shipment carries exactly once. -/
inductive BaseCategory where
  | linehaul | originServiceCharge | destinationServiceCharge | pack | unpack | fuelSurcharge
deriving DecidableEq, Inhabited

namespace BaseCategory

def all : List BaseCategory :=
  [linehaul, originServiceCharge, destinationServiceCharge, pack, unpack, fuelSurcharge]

def name : BaseCategory → String
  | linehaul => "Linehaul"
  | originServiceCharge => "OriginServiceCharge"
  | destinationServiceCharge => "DestinationServiceCharge"
  | pack => "Pack"
  | unpack => "Unpack"
  | fuelSurcharge => "FuelSurcharge"

def code : BaseCategory → String
  | linehaul => "LHS"
  | originServiceCharge => "135A"
  | destinationServiceCharge => "135B"
  | pack => "105A"
  | unpack => "105C"
  | fuelSurcharge => "16A"

def ofCode? (code : String) : Option BaseCategory := named? all BaseCategory.code code

/-- The position in `all`. -/
def index (c : BaseCategory) : Fin all.length := ⟨all.idxOf c, by cases c <;> decide⟩

def location : BaseCategory → LineItemLocation
  | destinationServiceCharge | unpack => .destination
  | originServiceCharge | pack => .origin
  | linehaul | fuelSurcharge => .neither

def isByMile (c : BaseCategory) : Bool := c = linehaul ∨ c = fuelSurcharge

end BaseCategory
end Haulage
