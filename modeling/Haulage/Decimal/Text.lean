import Haulage.Decimal.Arithmetic
import Haulage.Text

/-! Decimal text. A decimal is written with exactly its scale; it is read from plain
notation (sign, digits, one point, `_` between digits) or from scientific notation. -/
namespace Haulage.Decimal

/-- All digits of the scale are written, and at least one before the point. -/
def toText (a : Decimal) : String :=
  let ds := (zeroPadded (a.scale + 1) a.magnitude).toList
  let whole := ds.take (ds.length - a.scale)
  let places := ds.drop (ds.length - a.scale)
  String.ofList <|
    (if a.negative then ['-'] else []) ++ whole ++ (if a.scale = 0 then [] else '.' :: places)

instance : ToString Decimal := ⟨toText⟩

/-- The digits behind the last one that fits: the first of them rounds it half up. -/
def roundLast? (c s : Nat) (spare : List Char) : Option (Nat × Nat) := do
  let ds ← (spare.filter (· ≠ '_')).mapM digit?
  if ds.headD 0 < 5 then some (c, s)
  else if c + 1 < twoTo 96 then some (c + 1, s)
  else if s = 0 then none
  else some ((c + 5) / 10, s - 1)

/-- Reads coefficient and scale. Behind the point digits are taken while they fit (28
places, 96 bits). -/
def readCoefficient? (point digits : Bool) (c s : Nat) : List Char → Option (Nat × Nat)
  | [] => if digits then some (c, s) else none
  | ch :: rest =>
    if 28 ≤ s then roundLast? c s (ch :: rest)
    else match digit? ch with
      | some d =>
        if 10 * c + d < twoTo 96 then
          readCoefficient? point true (10 * c + d) (if point then s + 1 else s) rest
        else if point then roundLast? c s (ch :: rest)
        else none
      | none =>
        if ch = '.' ∧ ¬ point then readCoefficient? true digits c s rest
        else if ch = '_' ∧ digits then readCoefficient? point digits c s rest
        else none

/-- Plain notation. Zero has no sign but keeps its places. -/
def ofPlain? (cs : List Char) : Option Decimal :=
  match cs with
  | '-' :: rest => do
    let (c, s) ← readCoefficient? false false 0 0 rest
    of? (-c) s
  | '+' :: rest => do
    let (c, s) ← readCoefficient? false false 0 0 rest
    of? c s
  | _ => do
    let (c, s) ← readCoefficient? false false 0 0 cs
    of? c s

/-- An exponent: digits after an optional plus, within 32 bits. -/
def exponent? (cs : List Char) : Option Nat := do
  let n ← natOfText? (match cs with | '+' :: rest => rest | _ => cs)
  if n < twoTo 32 then some n else none

/-- Divides by `10 ^ n`. Digits beyond 28 places are given up, rounding half up; a number
that rounds to zero keeps its sign. -/
def shiftDown? (a : Decimal) (n : Nat) : Option Decimal :=
  if a.scale + n ≤ 28 then ofParts? a.negative a.magnitude (a.scale + n)
  else if n ≤ 28 then ofParts? a.negative (roundHalfUp a.magnitude (tenTo (a.scale + n - 28))) 28
  else none

/-- Multiplies by `10 ^ n`, at most nineteen places at a time. -/
def shiftUp? (a : Decimal) (n : Nat) : Option Decimal := do
  let first := min n 19
  let b ← mul? a (← of? (tenTo first) 0)
  if n ≤ 19 then some b else mul? b (← of? (tenTo (n - 19)) 0)

/-- Scientific notation: plain notation, `e` or `E`, and an exponent. -/
def ofScientific? (cs : List Char) : Option Decimal := do
  let base := cs.takeWhile fun c => c ≠ 'e' ∧ c ≠ 'E'
  let a ← ofPlain? base
  match cs.drop base.length with
  | [] => none
  | _ :: '-' :: exponent => shiftDown? a (← exponent? exponent)
  | _ :: exponent =>
    let e ← exponent? exponent
    if e ≤ a.scale then ofParts? a.negative a.magnitude (a.scale - e)
    else if 28 < e then none
    else normalize <$> shiftUp? a e

/-- Plain notation, else scientific. -/
def ofText? (s : String) : Option Decimal :=
  (ofPlain? s.toList).or (ofScientific? s.toList)

end Haulage.Decimal
