import Haulage.Text

/-! Decimal numbers with a bounded coefficient: a sign, a magnitude of at most 96 bits
and a scale of at most 28. Two decimals may write the same number at different scales,
and zero with either sign; `Decimal.cmp` compares numbers, equality compares writings. -/
namespace Haulage

/-- The number `magnitude / 10 ^ scale`, or its negative. -/
structure Decimal where
  negative : Bool
  magnitude : Nat
  scale : Nat
  magnitude_lt : magnitude < twoTo 96
  scale_le : scale ≤ 28
deriving DecidableEq

namespace Decimal

/-- The magnitude with its sign. -/
def mantissa (a : Decimal) : Int := if a.negative then -(a.magnitude : Int) else a.magnitude

def ofParts? (negative : Bool) (magnitude scale : Nat) : Option Decimal :=
  if h : magnitude < twoTo 96 ∧ scale ≤ 28 then some ⟨negative, magnitude, scale, h.1, h.2⟩
  else none

/-- The decimal `mantissa / 10 ^ scale`, if it fits; zero has no sign. -/
def of? (mantissa : Int) (scale : Nat) : Option Decimal :=
  ofParts? (mantissa < 0) mantissa.natAbs scale

theorem twoTo_96 : twoTo 96 = 79228162514264337593543950336 := rfl

theorem natAbs_toInt_lt (n : Int64) : n.toInt.natAbs < twoTo 96 := by
  have := n.le_toInt
  have := n.toInt_lt
  have := twoTo_96
  omega

/-- A 64-bit integer with its last `scale` digits behind the point. -/
def scaled (n : Int64) (scale : Nat) (h : scale ≤ 28 := by decide) : Decimal :=
  ⟨n.toInt < 0, n.toInt.natAbs, scale, natAbs_toInt_lt n, h⟩

def ofInt64 (n : Int64) : Decimal := scaled n 0

def ofUInt32 (n : UInt32) : Decimal :=
  ⟨false, n.toNat, 0, by have := n.toNat_lt; have := twoTo_96; omega, by decide⟩

def zero : Decimal := ⟨false, 0, 0, by decide, by decide⟩
def one : Decimal := ⟨false, 1, 0, by decide, by decide⟩

instance : Inhabited Decimal := ⟨zero⟩

/-- Order of the numbers written, whatever their scales and the sign of zero. -/
def cmp (a b : Decimal) : Ordering :=
  compare (a.mantissa * tenTo b.scale) (b.mantissa * tenTo a.scale)

end Decimal

/-- Nearest integer to `n / d`, a half going to the even neighbour. -/
def roundHalfEven (n d : Nat) : Nat :=
  if 2 * (n % d) < d ∨ (2 * (n % d) = d ∧ n / d % 2 = 0) then n / d else n / d + 1

/-- Nearest integer to `n / d`, a half going up. -/
def roundHalfUp (n d : Nat) : Nat :=
  if 2 * (n % d) < d then n / d else n / d + 1

namespace Decimal

def withSign (a : Decimal) (magnitude : Nat) : Int :=
  if a.negative then -(magnitude : Int) else magnitude

/-- Nearest integer, a half going away from zero. -/
def roundAway (a : Decimal) : Int := a.withSign (roundHalfUp a.magnitude (tenTo a.scale))

/-- Nearest integer, a half going to the even neighbour. -/
def roundEven (a : Decimal) : Int := a.withSign (roundHalfEven a.magnitude (tenTo a.scale))

end Decimal
end Haulage
