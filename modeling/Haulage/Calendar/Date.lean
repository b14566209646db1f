import Haulage.Text

/-! Dates of the proleptic Gregorian calendar, kept as a day number. Years run from
-262143 to 262142. Text is `YYYY-MM-DD`, with a sign outside the years 0 to 9999. -/
namespace Haulage

/-- A calendar day, counted from 1970-01-01. -/
structure Date where
  day : Int
  first_le : -96465292 ≤ day
  le_last : day ≤ 95026236
deriving DecidableEq

namespace Date

instance : Ord Date := ⟨compareOn day⟩

instance : Std.TransOrd Date := inferInstanceAs (Std.TransCmp (compareOn day))

instance : Std.LawfulEqOrd Date where
  eq_of_compare {a b} h := by
    have : a.day = b.day := Std.compare_eq_iff_eq.1 h
    cases a; cases b; simp_all

instance : LT Date := ⟨fun a b => a.day < b.day⟩
instance : LE Date := ⟨fun a b => a.day ≤ b.day⟩
instance (a b : Date) : Decidable (a < b) := inferInstanceAs (Decidable (a.day < b.day))
instance (a b : Date) : Decidable (a ≤ b) := inferInstanceAs (Decidable (a.day ≤ b.day))

/-- Days from `a` to `b`, negative if `b` is the earlier one. -/
def daysTo (a b : Date) : Int := b.day - a.day

def ofDay? (day : Int) : Option Date :=
  if h : -96465292 ≤ day ∧ day ≤ 95026236 then some ⟨day, h.1, h.2⟩ else none

def isLeapYear (year : Int) : Bool := year % 4 = 0 ∧ (year % 100 ≠ 0 ∨ year % 400 = 0)

def daysInMonth (year : Int) (month : Nat) : Nat :=
  match month with
  | 2 => if isLeapYear year then 29 else 28
  | 4 | 6 | 9 | 11 => 30
  | _ => 31

/-- Day number of a year, month and day. Years are counted from March, so that the
leap day ends a year, and in cycles of 400. -/
def dayNumber (year : Int) (month day : Nat) : Int :=
  let y := if month ≤ 2 then year - 1 else year
  let inCycle := y % 400
  let dayOfYear : Int := (153 * ((month + 9) % 12 : Nat) + 2) / 5 + day - 1
  y / 400 * 146097 + (inCycle * 365 + inCycle / 4 - inCycle / 100 + dayOfYear) - 719468

/-- The inverse of `dayNumber`: year, month and day. -/
def yearMonthDay (number : Int) : Int × Nat × Nat :=
  let z := number + 719468
  let dayInCycle := z % 146097
  let yearInCycle :=
    (dayInCycle - dayInCycle / 1460 + dayInCycle / 36524 - dayInCycle / 146096) / 365
  let dayOfYear := dayInCycle - (365 * yearInCycle + yearInCycle / 4 - yearInCycle / 100)
  let monthFromMarch := (5 * dayOfYear + 2) / 153
  let day := dayOfYear - (153 * monthFromMarch + 2) / 5 + 1
  let month := if monthFromMarch < 10 then monthFromMarch + 3 else monthFromMarch - 9
  let year := yearInCycle + z / 146097 * 400
  (if month ≤ 2 then year + 1 else year, month.toNat, day.toNat)

def ofYmd? (year : Int) (month day : Nat) : Option Date :=
  if 1 ≤ month ∧ month ≤ 12 ∧ 1 ≤ day ∧ day ≤ daysInMonth year month then
    ofDay? (dayNumber year month day)
  else none

/-- Four digits; outside 0 to 9999 a sign and at least four digits. -/
def yearText (year : Int) : String :=
  let digits := zeroPadded 4 year.natAbs
  if year < 0 then "-" ++ digits else if 9999 < year then "+" ++ digits else digits

def toText (d : Date) : String :=
  let (year, month, day) := yearMonthDay d.day
  yearText year ++ "-" ++ zeroPadded 2 month ++ "-" ++ zeroPadded 2 day

instance : ToString Date := ⟨toText⟩

def readDigits? (most : Nat) (cs : List Char) : Option (Nat × List Char) :=
  let ds := (cs.take most).takeWhile isDigit
  if ds = [] then none else some (ofDigits 10 (ds.filterMap digit?), cs.drop ds.length)

def readNumber? (most : Nat) (cs : List Char) : Option (Nat × List Char) :=
  readDigits? most (skipBlank cs)

/-- A year has up to four digits without a sign and any number of them with one. -/
def readYear? (cs : List Char) : Option (Int × List Char) :=
  match skipBlank cs with
  | '-' :: rest => (readDigits? rest.length rest).map fun (n, rest) => (-(n : Int), rest)
  | '+' :: rest => (readDigits? rest.length rest).map fun (n, rest) => (n, rest)
  | rest => (readDigits? 4 rest).map fun (n, rest) => (n, rest)

/-- Year, month and day with hyphens; blank space may precede each number and each
hyphen. -/
def readParts? (cs : List Char) : Option ((Int × Nat × Nat) × List Char) := do
  let (year, cs) ← readYear? cs
  let cs ← dropToken? ['-'] (skipBlank cs)
  let (month, cs) ← readNumber? 2 cs
  let cs ← dropToken? ['-'] (skipBlank cs)
  let (day, cs) ← readNumber? 2 cs
  return ((year, month, day), cs)

def ofText? (s : String) : Option Date := do
  let ((year, month, day), rest) ← readParts? s.toList
  if skipBlank rest = [] then ofYmd? year month day else none

end Date
end Haulage
