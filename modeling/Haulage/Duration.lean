import Haulage.Text

/-! Lengths of time to the nanosecond. They are written as whole amounts with units ("1h 30m
5s"), read from such amounts with or without a fraction, and shown as one number in the
largest unit that leaves a whole part ("1.5s"). -/
namespace Haulage

/-- A length of time of fewer than 2^64 seconds. -/
structure Duration where
  seconds : Nat
  nanos : Nat
  seconds_lt : seconds < twoTo 64
  nanos_lt : nanos < 1000000000
deriving DecidableEq

namespace Duration

/-- Whole seconds are carried over from the nanoseconds. -/
def of? (seconds nanos : Nat) : Option Duration :=
  if h : seconds + nanos / 1000000000 < twoTo 64 then
    some ⟨seconds + nanos / 1000000000, nanos % 1000000000, h, Nat.mod_lt _ (by decide)⟩
  else none

def zero : Duration := ⟨0, 0, by decide, by decide⟩

instance : Inhabited Duration := ⟨zero⟩

def isZero (d : Duration) : Bool := d.seconds = 0 ∧ d.nanos = 0

def fiveSeconds : Duration := ⟨5, 0, by decide, by decide⟩

/-- Milliseconds begun: a part of one counts as one. -/
def milliseconds (d : Duration) : Nat := d.seconds * 1000 + (d.nanos + 999999) / 1000000

/-- Seconds and nanoseconds in one unit of this name. -/
def unit? (name : String) : Option (Nat × Nat) :=
  match name with
  | "nanos" | "nsec" | "ns" => some (0, 1)
  | "usec" | "us" | "µs" => some (0, 1000)
  | "millis" | "msec" | "ms" => some (0, 1000000)
  | "seconds" | "second" | "secs" | "sec" | "s" => some (1, 0)
  | "minutes" | "minute" | "min" | "mins" | "m" => some (60, 0)
  | "hours" | "hour" | "hr" | "hrs" | "h" => some (3600, 0)
  | "days" | "day" | "d" => some (86400, 0)
  | "weeks" | "week" | "wk" | "wks" | "w" => some (604800, 0)
  | "months" | "month" | "M" => some (2630016, 0)
  | "years" | "year" | "yr" | "yrs" | "y" => some (31557600, 0)
  | _ => none

def isLetter (c : Char) : Bool := ('a' ≤ c ∧ c ≤ 'z') ∨ ('A' ≤ c ∧ c ≤ 'Z')

def isUnitLetter (c : Char) : Bool := isLetter c || c = 'µ'

/-- The number `whole + part / 10 ^ places`; without places there is no point in it. -/
structure Amount where
  whole : Nat
  part : Nat := 0
  places : Nat := 0

namespace Amount

def pushWhole (a : Amount) (digit : Nat) : Amount := { a with whole := 10 * a.whole + digit }

def pushPart (a : Amount) (digit : Nat) : Amount :=
  { a with part := 10 * a.part + digit, places := a.places + 1 }

/-- `n / 10 ^ places` as an integer, within 64 bits. -/
def exactly? (n places : Nat) : Option Nat :=
  if n < twoTo 64 ∧ places < 20 ∧ n % tenTo places = 0 then some (n / tenTo places) else none

def wholeIn? (a : Amount) (unit : Nat × Nat) : Option (Nat × Nat) :=
  if a.whole < twoTo 64 ∧ a.whole * unit.1 < twoTo 64 ∧ a.whole * unit.2 < twoTo 64 then
    some (a.whole * unit.1, a.whole * unit.2)
  else none

/-- Seconds and nanoseconds of the part. It must come to whole nanoseconds, and from an
hour on to whole seconds; a nanosecond has no parts. -/
def partIn? (a : Amount) (unit : Nat × Nat) : Option (Nat × Nat) :=
  if a.places = 0 then some (0, 0)
  else if unit = (0, 1) then none
  else if unit.1 < 3600 then
    (exactly? (a.part * (unit.1 * 1000000000 + unit.2)) a.places).map (0, ·)
  else (exactly? (a.part * unit.1) a.places).map (·, 0)

end Amount

/-- The sum of two lengths in seconds and nanoseconds, `none` beyond 64 bits. -/
def addTo? (total more : Nat × Nat) : Option (Nat × Nat) :=
  let nanos := total.2 + more.2
  let seconds := total.1 + more.1 + nanos / 1000000000
  if nanos < twoTo 64 ∧ seconds < twoTo 64 then some (seconds, nanos % 1000000000) else none

def addAmount? (total : Nat × Nat) (a : Amount) (name : List Char) : Option (Nat × Nat) := do
  let unit ← unit? (String.ofList name)
  addTo? (← addTo? total (← a.wholeIn? unit)) (← a.partIn? unit)

/-- How far reading is. -/
inductive Stage where
  | between
  | whole (a : Amount)
  | part (a : Amount)
  /-- In the unit's name, of which these are the letters, last one first. -/
  | unit (a : Amount) (name : List Char)

/-- Reads amounts up to the end. Blanks may stand before, within and after an amount, and
end a unit. -/
def readAmounts? (total : Nat × Nat) : Stage → List Char → Option (Nat × Nat)
  | .between, [] => some total
  | .between, c :: rest =>
    if isBlank c then readAmounts? total .between rest
    else do readAmounts? total (.whole ⟨← digit? c, 0, 0⟩) rest
  | .whole a, c :: rest =>
    if isBlank c then readAmounts? total (.whole a) rest
    else if isUnitLetter c then readAmounts? total (.unit a [c]) rest
    else if c = '.' then readAmounts? total (.part a) rest
    else do readAmounts? total (.whole (a.pushWhole (← digit? c))) rest
  | .part a, c :: rest =>
    if isBlank c then readAmounts? total (.part a) rest
    else if isUnitLetter c then
      if a.places = 0 then none else readAmounts? total (.unit a [c]) rest
    else do readAmounts? total (.part (a.pushPart (← digit? c))) rest
  | .whole _, [] | .part _, [] => none
  | .unit a name, [] => addAmount? total a name.reverse
  | .unit a name, c :: rest =>
    if isUnitLetter c then readAmounts? total (.unit a (c :: name)) rest
    else if isBlank c then do readAmounts? (← addAmount? total a name.reverse) .between rest
    else do readAmounts? (← addAmount? total a name.reverse) (.whole ⟨← digit? c, 0, 0⟩) rest

/-- At least one amount with a unit; a single zero needs none. -/
def ofText? (s : String) : Option Duration :=
  if s = "0" then some zero
  else if isBlankText s then none
  else do
    let (seconds, nanos) ← readAmounts? (0, 0) .between s.toList
    of? seconds nanos

def amountText (n : Nat) (unit : String) : List String :=
  if n = 0 then [] else [toString n ++ unit]

def pluralText (n : Nat) (unit : String) : List String :=
  amountText n (if n = 1 then unit else unit ++ "s")

/-- Amounts from years to nanoseconds, leaving out those that are zero. -/
def toText (d : Duration) : String :=
  if d.isZero then "0s"
  else
    let inYear := d.seconds % 31557600
    let inMonth := inYear % 2630016
    let inDay := inMonth % 86400
    " ".intercalate <|
      pluralText (d.seconds / 31557600) "year" ++ pluralText (inYear / 2630016) "month" ++
      pluralText (inMonth / 86400) "day" ++ amountText (inDay / 3600) "h" ++
      amountText (inDay % 3600 / 60) "m" ++ amountText (inDay % 60) "s" ++
      amountText (d.nanos / 1000000) "ms" ++ amountText (d.nanos / 1000 % 1000) "us" ++
      amountText (d.nanos % 1000) "ns"

/-- `n / 10 ^ places` without zeros at the end. -/
def decimalText (whole fraction places : Nat) (unit : String) : String :=
  let digits := (((zeroPadded places fraction).toList.reverse).dropWhile (· = '0')).reverse
  toString whole ++ (if digits = [] then "" else "." ++ String.ofList digits) ++ unit

/-- The length in the largest of seconds to nanoseconds that it reaches. -/
def shown (d : Duration) : String :=
  if 0 < d.seconds then decimalText d.seconds d.nanos 9 "s"
  else if 1000000 ≤ d.nanos then decimalText (d.nanos / 1000000) (d.nanos % 1000000) 6 "ms"
  else if 1000 ≤ d.nanos then decimalText (d.nanos / 1000) (d.nanos % 1000) 3 "µs"
  else toString d.nanos ++ "ns"

end Duration
end Haulage
