import Haulage.LineItem
import Haulage.Rates
import Haulage.Shipment

/-! Charges from the tariff: the linehaul charge of a shipment and the charge of one
line item. The rate is discounted first, multiplied out exactly, and rounded to cents
once. -/
namespace Haulage

def defaultLinehaulCode : String := "LHS"

structure Calculator where
  rates : RateTable
  linehaulCode : String := defaultLinehaulCode
deriving DecidableEq

/-- The nearest 64-bit integer, a half going away from zero. -/
def roundToInt64 (a : Decimal) : Except Error Int64 :=
  match int64? a.roundAway with
  | some n => .ok n
  | none => .error (.arithmetic (.amount a))

def times (a b : Decimal) : Except Error Decimal :=
  match a.mul? b with
  | some c => .ok c
  | none => .error (.arithmetic (.product a b))

def dividedBy (a : Decimal) (divisor : Nat) : Except Error Decimal :=
  match a.div? divisor with
  | some q => .ok q
  | none => .error (.arithmetic (.quotient a divisor))

/-- Cents from an exact amount of millicents. -/
def Cents.ofMillicents (amount : Decimal) : Except Error Cents := do
  return ⟨← roundToInt64 (← dividedBy amount 1000)⟩

def Millicents.ofDecimal (amount : Decimal) : Except Error Millicents := do
  return ⟨← roundToInt64 amount⟩

def DiscountRate.ofDecimal (rate : Decimal) : Except Error DiscountRate :=
  match of? rate with
  | some d => .ok d
  | none => .error (.invalid "discount_rate" s!"{rate} is outside the range [0, 1]")

/-- The quantity in whole miles, a half going to the even neighbour. -/
def wholeMiles (q : Quantity) : Except Error Miles :=
  let n := q.toDecimal.roundEven
  if 0 ≤ n ∧ n < twoTo 32 then .ok (UInt32.ofNat n.toNat) else .error (.arithmetic (.mileage q))

/-- The actual amount, else the estimate. -/
def LineItem.billedAmount (item : LineItem) : Except Error Cents :=
  match item.actualAmount.or item.estimateAmount with
  | some cents => .ok cents
  | none => .error (.invalid "estimate_amount_cents"
      "an estimate or actual amount is required to price this item")

/-- The units billed and, where rates are banded by distance, the miles that choose the
band. -/
def billingUnits (tariff : TariffItem) (item : LineItem) :
    Except Error (Decimal × Option Miles) := do
  let first := item.quantity1.toDecimal
  let second := item.quantity2.toDecimal
  match tariff.measurementUnit with
  | .weight => return (← dividedBy first 100, none)
  | .weightDistance =>
    let units ← times (← dividedBy first 100) second
    return (units, some (← wholeMiles item.quantity2))
  | .volume | .each => return (first, none)
  | .distance => return (first, some (← wholeMiles item.quantity1))
  | .days => return (← times (← dividedBy first 100) second, none)
  | .flat => return (.one, none)
  | .actualCost => return (← dividedBy (← item.billedAmount).toDecimal 100, none)

/-- The discounted rate times the units. -/
def discountedCharge (rate : Millicents) (units : Decimal) (discount : DiscountRate) :
    Except Error FeeAndRate := do
  let unitRate ← times rate.toDecimal discount.value
  let total ← times unitRate units
  return { fee := ← Cents.ofMillicents total, rate := ← Millicents.ofDecimal unitRate }

namespace Calculator

/-- The linehaul charge of the whole shipment, by the hundredweight-mile. -/
def shipmentCharge (c : Calculator) (shipment : Shipment) (miles : Miles)
    (discount : DiscountRate) : Except Error FeeAndRate := do
  let weight ← shipment.requireNetWeight
  let bookDate ← shipment.requireBookDate
  let rate ← c.rates.rate c.linehaulCode weight bookDate (some miles)
  let units ← times weight.toCwt (.ofUInt32 miles)
  discountedCharge rate units discount

/-- The charge of one line item. Its tariff item decides on the units and on whether
the discount applies. -/
def lineItemCharge (c : Calculator) (item : LineItem) (shipment : Shipment)
    (discount : DiscountRate) : Except Error FeeAndRate := do
  let tariff ← c.rates.tariffItem item.tariffCode
  let weight ← shipment.requireNetWeight
  let bookDate ← shipment.requireBookDate
  let (units, miles) ← billingUnits tariff item
  let rate ← c.rates.rate tariff.code weight bookDate miles
  discountedCharge rate units
    (if tariff.discountType = .nonDiscountable then .full else discount)

end Calculator

/-- What the pricing rule does to one line item. -/
inductive PricingAction where
  | price
  /-- There is nothing to price; a stale price goes. -/
  | clear
  | skip
deriving DecidableEq

/-- The price follows the status, the pricing basis and the shipment's delivery, until
the item is invoiced. -/
def pricingAction (item : LineItem) (tariff : TariffItem) (shipment : Shipment) : PricingAction :=
  if item.isInvoiced ∨ ¬ item.status.isPriceable ∨ ¬ shipment.status.isPriceable then .skip
  else if item.hasPricingBasis tariff then .price
  else .clear

end Haulage
