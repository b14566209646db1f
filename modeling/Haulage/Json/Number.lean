import Haulage.Decimal.Binary
import Haulage.Units

/-! Numbers of JSON text. The digits are kept as they are written: integers are read
from them exactly, and any other number by way of the nearest binary one. -/
namespace Haulage

/-- A number as it is written. -/
structure JsonNumber where
  negative : Bool
  whole : Nat
  /-- The digits behind the point; without them there is no point. -/
  fraction : List Nat
  exponent : Option Int
deriving DecidableEq

namespace JsonNumber

def ofInt (n : Int) : JsonNumber := ⟨n < 0, n.natAbs, [], none⟩

/-- The integer that is written without point and exponent. A zero with a sign is no
integer. -/
def toInt? (n : JsonNumber) : Option Int :=
  if n.fraction = [] ∧ n.exponent = none ∧ ¬ (n.negative ∧ n.whole = 0) then
    some (if n.negative then -n.whole else n.whole)
  else none

/-- The same, where 64 bits hold it: with a sign down to `-2 ^ 63`, without one below
`2 ^ 64`. -/
def toWord? (n : JsonNumber) : Option Int := do
  let i ← n.toInt?
  if -(twoTo 63 : Int) ≤ i ∧ i < twoTo 64 then some i else none

/-- Digits taken into a significand while 64 bits hold it. -/
def takeDigits : (significand : Nat) → List Nat → Nat × List Nat
  | m, [] => (m, [])
  | m, d :: rest => if 10 * m + d < twoTo 64 then takeDigits (10 * m + d) rest else (m, d :: rest)

/-- The significand of 64 bits that stands for all digits, and its power of ten. Digits
of the whole part that do not fit count for their place only. -/
def parts (n : JsonNumber) : Nat × Int :=
  let (m, spare) := takeDigits 0 ((toString n.whole).toList.filterMap digit?)
  let (m', rest) := takeDigits m n.fraction
  (m', spare.length - (n.fraction.length - rest.length : Nat) + n.exponent.getD 0)

/-- The magnitude in binary, `none` if it is too large. -/
def magnitude? (n : JsonNumber) : Option Binary64 := do
  let (m, e) := n.parts
  (← Binary64.nearest? m 1).shift? e

/-- Some value of 64 bits stands for the number. -/
def isFinite (n : JsonNumber) : Bool := n.toWord?.isSome || n.magnitude?.isSome

/-- The digits of `c * 10 ^ t` without an exponent. -/
def plainDigits (c : Nat) (t : Int) : List Char :=
  if 0 ≤ t then (toString c).toList ++ List.replicate t.toNat '0'
  else
    let places := (-t).toNat
    let ds := (zeroPadded (places + 1) c).toList
    ds.take (ds.length - places) ++ '.' :: ds.drop (ds.length - places)

/-- An integer of 64 bits as it is; any other number by the fewest digits that tell its
binary value. -/
def toDecimal? (n : JsonNumber) : Option Decimal :=
  match n.toWord? with
  | some i => Decimal.of? i 0
  | none => do
    let (c, t) := (← n.magnitude?).shortest
    Decimal.ofPlain? ((if n.negative then ['-'] else []) ++ plainDigits c t)

end JsonNumber
end Haulage
