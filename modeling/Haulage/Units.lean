import Haulage.Decimal.Text

/-! Money, weights, quantities and distances, each a machine integer in its own unit,
and the discount that a carrier gives. -/
namespace Haulage

structure Cents where
  val : Int64
deriving DecidableEq, Inhabited

/-- Thousandths of a cent, the unit of rates. -/
structure Millicents where
  val : Int64
deriving DecidableEq, Inhabited

structure Pounds where
  val : Int64
deriving DecidableEq, Inhabited

/-- A quantity in ten-thousandths of a unit: 47.4 cubic feet are 474000. -/
structure Quantity where
  val : Int64
deriving DecidableEq, Inhabited

structure ThousandthInches where
  val : Int32
deriving DecidableEq, Inhabited

abbrev Miles := UInt32

/-- A charge and the rate per unit that it comes from. -/
structure FeeAndRate where
  fee : Cents
  rate : Millicents
deriving DecidableEq, Inhabited

/-- The 64-bit integer equal to `n`, if there is one. -/
def int64? (n : Int) : Option Int64 :=
  if -(twoTo 63 : Int) ≤ n ∧ n < twoTo 63 then some (Int64.ofInt n) else none

namespace Cents

def toDecimal (c : Cents) : Decimal := .ofInt64 c.val

/-- Dollars with two places, a minus sign before the dollar sign. -/
def toText (c : Cents) : String :=
  let abs := c.val.toInt.natAbs
  (if c.val < 0 then "-$" else "$") ++ toString (abs / 100) ++ "." ++ zeroPadded 2 (abs % 100)

instance : ToString Cents := ⟨toText⟩

end Cents

namespace Millicents

def toDecimal (m : Millicents) : Decimal := .ofInt64 m.val

instance : ToString Millicents := ⟨fun m => toString m.val.toInt ++ "mc"⟩

end Millicents

namespace Pounds

def toCwt (p : Pounds) : Decimal := .scaled p.val 2

instance : ToString Pounds := ⟨fun p => toString p.val.toInt ++ " lbs"⟩

end Pounds

namespace Quantity

def zero : Quantity := ⟨0⟩

def ofUnits (units : Int64) : Quantity := ⟨units * 10000⟩

def toDecimal (q : Quantity) : Decimal := .scaled q.val 4

def isZero (q : Quantity) : Bool := q.val == 0

end Quantity

/-- The part of a charge that is left after the discount: 1 leaves it as it is, 0.45
keeps 45 percent. -/
structure DiscountRate where
  value : Decimal
  nonneg : 0 ≤ value.mantissa
  le_one : value.mantissa ≤ tenTo value.scale
deriving DecidableEq

namespace DiscountRate

/-- A decimal from 0 to 1. -/
def of? (value : Decimal) : Option DiscountRate :=
  if h : 0 ≤ value.mantissa ∧ value.mantissa ≤ tenTo value.scale then some ⟨value, h.1, h.2⟩
  else none

def full : DiscountRate := ⟨.one, by decide, by decide⟩

instance : Inhabited DiscountRate := ⟨full⟩

instance : ToString DiscountRate := ⟨fun d => d.value.toText⟩

/-- What is left of `amount`, not rounded to a unit. -/
def discounted? (d : DiscountRate) (amount : Decimal) : Option Decimal := amount.mul? d.value

end DiscountRate
end Haulage
