import Haulage.Address
import Haulage.Error
import Haulage.Tariff

/-! Tariff reference data, and the rate table that it makes once it is checked: items
and rate rows by code, zones by postal code. -/
namespace Haulage

/-- Reference tables as they are handed in. -/
structure ReferenceData where
  tariffItems : List TariffItem := []
  rates : List TariffRate := []
  /-- Rate areas by five or three digits of a postal code. -/
  rateAreas : SortedMap String String := .empty
  /-- Regions by five or three digits of a postal code. -/
  regions : SortedMap String String := .empty
deriving DecidableEq, Inhabited

/-- Checked reference tables, indexed by code. -/
structure RateTable where
  items : SortedMap String TariffItem
  rates : SortedMap String (List TariffRate)
  rateAreas : SortedMap String String
  regions : SortedMap String String
deriving DecidableEq, Inhabited

namespace ReferenceData

/-- Items by code, the first of those with one code. -/
def itemIndex (items : List TariffItem) : SortedMap String TariffItem :=
  items.foldl (fun m t => if m.contains t.code then m else m.insert t.code t) .empty

/-- One message for each item that repeats an earlier code. -/
def duplicateErrors : (seen : List String) → List TariffItem → FieldErrors → FieldErrors
  | _, [], e => e
  | seen, t :: rest, e =>
    duplicateErrors (t.code :: seen) rest
      (e.addIf (t.code ∈ seen) "tariff_items" s!"duplicate code {t.code}")

/-- What is wrong with one rate row, under its index. -/
def rateErrors (items : SortedMap String TariffItem) (e : FieldErrors) (r : TariffRate)
    (index : Nat) : FieldErrors :=
  let field := s!"rates[{index}]"
  let emptyMiles := match r.milesLower, r.milesUpper with
    | some lower, some upper => decide (upper ≤ lower)
    | _, _ => false
  e.addIf (!items.contains r.code) field s!"unknown tariff code {r.code}"
    |>.addIf (r.dateUpper ≤ r.dateLower) field "effective date range is empty"
    |>.addIf (r.weightUpper ≤ r.weightLower) field "weight range is empty"
    |>.addIf emptyMiles field "distance range is empty"
    |>.addIf (r.rate.val < 0) field "rate can not be negative"

def validate (data : ReferenceData) : FieldErrors :=
  let items := itemIndex data.tariffItems
  data.rates.zipIdx.foldl (fun e (r, index) => rateErrors items e r index)
    (duplicateErrors [] data.tariffItems .empty)

/-- Rate rows by code, in the order in which they were handed in. -/
def rateIndex (rates : List TariffRate) : SortedMap String (List TariffRate) :=
  rates.foldl (fun m r => m.upsert r.code fun old => old.getD [] ++ [r]) .empty

end ReferenceData

namespace RateTable

/-- Indexes reference data that passes all checks. -/
def ofReference (data : ReferenceData) : Except Error RateTable := do
  data.validate.check
  return {
    items := ReferenceData.itemIndex data.tariffItems
    rates := ReferenceData.rateIndex data.rates
    rateAreas := data.rateAreas
    regions := data.regions }

def tariffItem (t : RateTable) (code : String) : Except Error TariffItem :=
  require .tariffItem code (t.items.get? code)

/-- Whether row `a` came into effect no earlier than `b`, or at the same time from no
lower weight. -/
def supersedes (a b : TariffRate) : Bool :=
  b.dateLower < a.dateLower || (b.dateLower = a.dateLower && b.weightLower ≤ a.weightLower)

/-- The row that supersedes all others, the last one of those that tie. -/
def latest? (rows : List TariffRate) : Option TariffRate :=
  rows.foldl (fun best r => if best.all (supersedes r ·) then some r else best) none

/-- The rate at this weight, date and mileage. Of overlapping rows the one that came
into effect last decides. -/
def rate (t : RateTable) (code : String) (weight : Pounds) (date : Date)
    (miles : Option Miles) : Except Error Millicents :=
  let rows := (t.rates.get? code).getD []
  match latest? (rows.filter (·.applies code weight date miles)) with
  | some r => .ok r.rate
  | none => .error (.noApplicableRate code weight date miles)

/-- The zone of the five digits, else of the first three. -/
def zone? (zones : SortedMap String String) (postalCode : String) : Option String :=
  let zip := zip5 postalCode
  (zones.get? (String.ofList zip)).or <|
    (bytePrefix? 3 zip).bind fun zip3 => zones.get? (String.ofList zip3)

def rateArea (t : RateTable) (postalCode : String) : Except Error String :=
  require .rateArea postalCode (zone? t.rateAreas postalCode)

def region (t : RateTable) (postalCode : String) : Except Error String :=
  require .region postalCode (zone? t.regions postalCode)

end RateTable
end Haulage
