import Haulage.Decimal.Basic

/-! Products and quotients of decimals. A product is exact while it fits; one that
needs more than 96 bits or 28 places gives up its last digits, rounding half to
even. A quotient by a small number is carried on until it ends or no digit fits. -/
namespace Haulage.Decimal

/-- The magnitude `p / 10 ^ s` brought into range: as few digits as possible are
given up, and one more if rounding leaves the range again. -/
def reduce? (p s : Nat) : Option (Nat × Nat) :=
  match (List.range (s + 1)).find? fun k => s ≤ k + 28 && p / tenTo k < twoTo 96 with
  | none => none
  | some k =>
    let q := if k = 0 then p else roundHalfEven p (tenTo k)
    if q < twoTo 96 then some (q, s - k)
    else if s - k = 0 then none
    else some (roundHalfEven q 10, s - k - 1)

def areShort (a b : Decimal) : Bool := a.magnitude < twoTo 32 ∧ b.magnitude < twoTo 32

/-- The product, `none` if it does not fit at scale 0 either. Zero times anything is
zero without places, and so is a product of short factors with more than 47 places
together. A product that rounds to zero keeps its places, and its sign unless the
factors are short. -/
def mul? (a b : Decimal) : Option Decimal :=
  if a.magnitude = 0 ∨ b.magnitude = 0 ∨ (areShort a b ∧ 47 < a.scale + b.scale) then some zero
  else do
    let (p, s) ← reduce? (a.magnitude * b.magnitude) (a.scale + b.scale)
    ofParts? ((a.negative ^^ b.negative) && !(p = 0 && areShort a b)) p s

/-- How many further digits a quotient with coefficient `q` takes at `scale`: at most
nine at a time, within 28 places and 96 bits. -/
def room (q scale : Nat) : Nat :=
  ((List.range 10).filter fun x => scale + x ≤ 28 && q * tenTo x < twoTo 96).getLastD 0

/-- Long division: `q` and remainder `r` of the digits so far, carried on by `d`. -/
def divideOn (d : Nat) : (fuel q r scale : Nat) → Nat × Nat
  | 0, q, _, scale => (q, scale)
  | fuel + 1, q, r, scale =>
    if r = 0 then (q, scale)
    else
      let x := room q scale
      if x = 0 then
        (if 2 * r < d ∨ (2 * r = d ∧ q % 2 = 0) then q else q + 1, scale)
      else
        let r' := r * tenTo x
        divideOn d fuel (q * tenTo x + r' / d) (r' % d) (scale + x)

/-- Drops eight zeros at a time from the end, while the coefficient also ends in 32
zero bits. -/
def dropEights : Nat → Nat → Nat → Nat × Nat
  | 0, q, scale => (q, scale)
  | fuel + 1, q, scale =>
    if q % twoTo 32 = 0 ∧ 8 ≤ scale ∧ q % tenTo 8 = 0 then dropEights fuel (q / tenTo 8) (scale - 8)
    else (q, scale)

def dropZeros (n : Nat) (qs : Nat × Nat) : Nat × Nat :=
  if qs.1 % tenTo n = 0 ∧ n ≤ qs.2 then (qs.1 / tenTo n, qs.2 - n) else qs

/-- The zeros a quotient ends in are dropped by eights, then four, two and one. -/
def dropTrailing (q scale : Nat) : Nat × Nat :=
  dropZeros 1 (dropZeros 2 (dropZeros 4 (dropEights 4 q scale)))

/-- The quotient by `d`. A division that comes out even keeps its scale; any other
takes the digits it needs. -/
def div? (a : Decimal) (d : Nat) : Option Decimal :=
  if a.magnitude = 0 then some zero
  else
    let n := a.magnitude
    let (q, s) :=
      if n % d = 0 then (n / d, a.scale)
      else
        let (q, s) := divideOn d 29 (n / d) (n % d) a.scale
        dropTrailing q s
    of? (a.withSign q) s

/-- Without the zeros behind the point that do not change the number. -/
def normalize (a : Decimal) : Decimal :=
  if a.magnitude = 0 then zero else strip a.scale a
where
  strip : Nat → Decimal → Decimal
    | 0, a => a
    | fuel + 1, a =>
      if 10 ∣ a.magnitude ∧ 0 < a.scale then
        strip fuel ⟨a.negative, a.magnitude / 10, a.scale - 1,
          by have := a.magnitude_lt; omega, by have := a.scale_le; omega⟩
      else a

end Haulage.Decimal
