import Haulage.Decimal.Basic

/-! Non-negative binary floating-point numbers of 64 bits, kept as exact integers: a
significand of 53 bits and a power of two. A number that is not one of them is rounded
to the nearest, a half going to the even significand. `Binary64.shortest` gives the
fewest decimal digits that round back to the same number. -/
namespace Haulage

/-- The number `significand * 2 ^ exponent`. -/
structure Binary64 where
  significand : Nat
  exponent : Int
deriving DecidableEq

namespace Binary64

def fraction (x : Binary64) : Nat × Nat :=
  (x.significand * twoTo x.exponent.toNat, twoTo (-x.exponent).toNat)

/-- The quotient `n / d` in units of `2 ^ q`, as numerator and denominator. -/
def inUnits (n d : Nat) (q : Int) : Nat × Nat := (n * twoTo (-q).toNat, d * twoTo q.toNat)

/-- The power of two that leaves `n / d` fewer than 54 bits; none is below the last of
the subnormal numbers. -/
def unitOf (n d : Nat) : Int :=
  let q : Int := max (-1074) ((n.log2 : Int) - d.log2 - 53)
  let (a, b) := inUnits n d q
  if a / b < twoTo 53 then q else q + 1

/-- The nearest to `n / d`, `none` beyond the largest. -/
def nearest? (n d : Nat) : Option Binary64 :=
  let q := unitOf n d
  let (a, b) := inUnits n d q
  let m := roundHalfEven a b
  let x : Binary64 := if m = twoTo 53 then ⟨twoTo 52, q + 1⟩ else ⟨m, q⟩
  if 971 < x.exponent then none else some x

def mul? (x y : Binary64) : Option Binary64 :=
  let (a, b) := x.fraction
  let (c, d) := y.fraction
  nearest? (a * c) (b * d)

def div? (x y : Binary64) : Option Binary64 :=
  let (a, b) := x.fraction
  let (c, d) := y.fraction
  nearest? (a * d) (b * c)

/-- `x * 10 ^ e` by one product or quotient with the nearest to a power of ten; powers
below -308 are taken in steps. -/
def shift? (x : Binary64) (e : Int) : Option Binary64 :=
  if e.natAbs ≤ 308 then do
    let power ← nearest? (tenTo e.natAbs) 1
    if 0 ≤ e then x.mul? power else x.div? power
  else if x.significand = 0 then some x
  else if 0 ≤ e then none
  else do
    let x ← x.div? (← nearest? (tenTo 308) 1)
    shift? x (e + 308)
termination_by e.natAbs

/-- The numbers that round to `x` lie between these two fractions over one denominator;
the ends belong to them if the significand is even. -/
def bounds (x : Binary64) : (Nat × Nat) × Nat :=
  let (n, d) := Binary64.fraction ⟨1, x.exponent - 2⟩
  let below := if x.significand = twoTo 52 ∧ -1074 < x.exponent then 1 else 2
  (((4 * x.significand - below) * n, (4 * x.significand + 2) * n), d)

def admits (x : Binary64) (c : Nat) (t : Int) : Bool :=
  let ((low, high), d) := x.bounds
  let n := c * tenTo t.toNat * d
  let e := tenTo (-t).toNat
  if x.significand % 2 = 0 then low * e ≤ n && n ≤ high * e else low * e < n && n < high * e

/-- The digits and power of ten found on the first grid from `10 ^ t` downwards that has
a number which rounds to `x`: the nearer one if both neighbours do, the upper one of two
that are equally near. -/
def shortestFrom (x : Binary64) : (fuel : Nat) → (t : Int) → Nat × Int
  | 0, t => (0, t)
  | fuel + 1, t =>
    let (n, d) := x.fraction
    let a := n * tenTo (-t).toNat
    let b := d * tenTo t.toNat
    let c := a / b
    let nearer := if 2 * (a % b) < b then c else c + 1
    if x.admits nearer t then (nearer, t)
    else if x.admits c t then (c, t)
    else if x.admits (c + 1) t then (c + 1, t)
    else shortestFrom x fuel (t - 1)

/-- The fewest digits that round back to `x`, as an integer and a power of ten. -/
def shortest (x : Binary64) : Nat × Int :=
  let (n, d) := x.fraction
  if n = 0 then (0, 0)
  else if d ≤ n then shortestFrom x 20 (toString (n / d)).length
  else shortestFrom x 20 (1 - ((toString (d / n)).length : Int))

end Binary64
end Haulage
