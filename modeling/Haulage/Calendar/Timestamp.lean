import Haulage.Calendar.Date

/-! Points in time, in UTC, to the nanosecond. Text is RFC 3339: read with any offset
and some freedom in blanks, written with `Z` and the fewest of 0, 3, 6 or 9 places
that are exact. A leap second is the 59th second with a full second of nanoseconds
more. -/
namespace Haulage

/-- A second of a day and the nanoseconds since it began. -/
structure Timestamp where
  date : Date
  second : Nat
  nano : Nat
  second_lt : second < 86400
  nano_lt : nano < 1000000000 ∨ (nano < 2000000000 ∧ second % 60 = 59)
deriving DecidableEq

namespace Timestamp

instance : Ord Timestamp :=
  ⟨compareLex (compareOn date) (compareLex (compareOn second) (compareOn nano))⟩

instance : Std.TransOrd Timestamp :=
  inferInstanceAs (Std.TransCmp
    (compareLex (compareOn date) (compareLex (compareOn second) (compareOn nano))))

instance : Std.LawfulEqOrd Timestamp where
  eq_of_compare {a b} h := by
    obtain ⟨hd, h⟩ := compareLex_eq_eq.1 h
    obtain ⟨hs, hn⟩ := compareLex_eq_eq.1 h
    have : a.date = b.date := Std.compare_eq_iff_eq.1 hd
    have : a.second = b.second := Std.compare_eq_iff_eq.1 hs
    have : a.nano = b.nano := Std.compare_eq_iff_eq.1 hn
    cases a; cases b; simp_all

def of? (day : Int) (second nano : Nat) : Option Timestamp := do
  let date ← Date.ofDay? day
  if h : second < 86400 ∧ (nano < 1000000000 ∨ (nano < 2000000000 ∧ second % 60 = 59)) then
    some ⟨date, second, nano, h.1, h.2⟩
  else none

/-- The fraction of a second with a point before it, nothing if it is zero. -/
def fractionText (nano : Nat) : String :=
  if nano = 0 then ""
  else if nano % 1000000 = 0 then "." ++ zeroPadded 3 (nano / 1000000)
  else if nano % 1000 = 0 then "." ++ zeroPadded 6 (nano / 1000)
  else "." ++ zeroPadded 9 nano

def toText (t : Timestamp) : String :=
  let leap := t.nano / 1000000000
  t.date.toText ++ "T" ++ zeroPadded 2 (t.second / 3600) ++ ":" ++
    zeroPadded 2 (t.second / 60 % 60) ++ ":" ++ zeroPadded 2 (t.second % 60 + leap) ++
    fractionText (t.nano % 1000000000) ++ "Z"

instance : ToString Timestamp := ⟨toText⟩

/-- Nanoseconds after a point: nine digits count, more are passed over. -/
def readFraction? (cs : List Char) : Option (Nat × List Char) :=
  match cs with
  | '.' :: rest =>
    let ds := rest.takeWhile isDigit
    let counted := (ds.take 9).filterMap digit?
    if ds = [] then none
    else some (ofDigits 10 counted * tenTo (9 - counted.length), rest.drop ds.length)
  | _ => some (0, cs)

/-- Two digits, nothing before or between them. -/
def readPair? (cs : List Char) : Option (Nat × List Char) :=
  match cs with
  | a :: b :: rest => do return (10 * (← digit? a) + (← digit? b), rest)
  | _ => none

/-- The offset from UTC in minutes: `Z`, `UTC`, or a sign, hours and minutes. -/
def readOffset? (cs : List Char) : Option (Int × List Char) :=
  match cs with
  | 'Z' :: rest | 'z' :: rest => some (0, rest)
  | u :: t :: c :: rest =>
    if (u = 'U' ∨ u = 'u') ∧ (t = 'T' ∨ t = 't') ∧ (c = 'C' ∨ c = 'c') then some (0, rest)
    else do
      let sign ← if u = '+' then some (1 : Int) else if u = '-' ∨ u = '\u2212' then some (-1) else none
      let (hours, rest) ← readPair? (t :: c :: rest)
      let (minutes, rest) ← readPair? (rest.dropWhile fun c => c = ':' ∨ isBlank c)
      if minutes < 60 ∧ hours < 24 then some (sign * (60 * hours + minutes), rest) else none
  | _ => none

/-- Hours, minutes, seconds and nanoseconds; second 60 is a leap second. -/
def readClock? (cs : List Char) : Option ((Nat × Nat) × List Char) := do
  let (hour, cs) ← Date.readNumber? 2 cs
  let cs ← dropToken? [':'] (skipBlank cs)
  let (minute, cs) ← Date.readNumber? 2 cs
  let cs ← dropToken? [':'] (skipBlank cs)
  let (second, cs) ← Date.readNumber? 2 cs
  let (nano, cs) ← readFraction? cs
  if hour < 24 ∧ minute < 60 ∧ second ≤ 60 then
    let start := 3600 * hour + 60 * minute
    return (if second = 60 then (start + 59, nano + 1000000000) else (start + second, nano), cs)
  else none

def ofText? (s : String) : Option Timestamp := do
  let ((year, month, day), cs) ← Date.readParts? s.toList
  let date ← Date.ofYmd? year month day
  let cs ← match cs with
    | 'T' :: rest | 't' :: rest | ' ' :: rest => some rest
    | _ => none
  let ((second, nano), cs) ← readClock? cs
  let (offset, cs) ← readOffset? (skipBlank cs)
  if skipBlank cs ≠ [] then none
  else
    let inDay := (second : Int) - 60 * offset
    of? (date.day + inDay / 86400) (inDay % 86400).toNat nano

end Timestamp
end Haulage
