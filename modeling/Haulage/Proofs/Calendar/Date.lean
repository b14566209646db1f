import Haulage.Calendar.Date
import Haulage.Proofs.Text.Numeral

/-! A date is read from its own text: year, month and day of a day number lead back to it, and
they are numbers that a year, a month and a day may have. -/
namespace Haulage.Date

/-- The day of a cycle of 400 years that is the day `t` of the year `100 * c + 4 * q + y`, where
years begin in March. A year has a day 365 if a leap day ends it. -/
structure InCycle (day c q y t : Int) : Prop where
  centuries : 0 ≤ c ∧ c ≤ 3
  leaps : 0 ≤ q ∧ q ≤ 24
  years : 0 ≤ y ∧ y ≤ 3
  days : 0 ≤ t ∧ (t ≤ 364 ∨ t = 365 ∧ y = 3 ∧ (q = 24 → c = 3))
  sum : day = 36524 * c + 1461 * q + 365 * y + t

theorem exists_inCycle {day : Int} (first : 0 ≤ day) (last : day < 146097) :
    ∃ c q y t, InCycle day c q y t := by
  by_cases leapCentury : day = 146096
  · exact ⟨3, 24, 3, 365, by omega, by omega, by omega, by omega, by omega⟩
  by_cases leapDay : day % 36524 % 1461 = 1460
  · exact ⟨day / 36524, day % 36524 / 1461, 3, 365, by omega, by omega, by omega, by omega, by omega⟩
  · exact ⟨day / 36524, day % 36524 / 1461, day % 36524 % 1461 / 365, day % 36524 % 1461 % 365,
      by omega, by omega, by omega, by omega, by omega⟩

theorem InCycle.year_eq {day c q y t : Int} (h : InCycle day c q y t) :
    (day - day / 1460 + day / 36524 - day / 146096) / 365 = 100 * c + 4 * q + y := by
  obtain ⟨centuries, leaps, years, days, sum⟩ := h
  by_cases leapCentury : day = 146096
  · omega
  have noEra : day / 146096 = 0 := by omega
  have century : day / 36524 = c := by omega
  -- The years of a century are 24 days longer than its cycles of 1460.
  have cycles : day / 1460 = 25 * c + q + (24 * c + q + 365 * y + t) / 1460 := by omega
  rw [noEra, century, cycles]
  omega

theorem InCycle.inEra {day c q y t : Int} (h : InCycle day c q y t) (era : Int) :
    (100 * c + 4 * q + y + era * 400) % 400 = 100 * c + 4 * q + y ∧
      (100 * c + 4 * q + y + era * 400) / 400 = era := by
  obtain ⟨centuries, leaps, years, days, sum⟩ := h
  omega

/-- The days of the years before. -/
theorem InCycle.yearStart_eq {day c q y t : Int} (h : InCycle day c q y t) :
    365 * (100 * c + 4 * q + y) + (100 * c + 4 * q + y) / 4 - (100 * c + 4 * q + y) / 100 =
      day - t := by
  obtain ⟨centuries, leaps, years, days, sum⟩ := h
  have leapYears : (100 * c + 4 * q + y) / 4 = 25 * c + q := by omega
  have hundreds : (100 * c + 4 * q + y) / 100 = c := by omega
  rw [leapYears, hundreds]
  omega

theorem InCycle.inYear {day c q y t : Int} (h : InCycle day c q y t) : 0 ≤ t ∧ t ≤ 365 := by
  obtain ⟨centuries, leaps, years, days, sum⟩ := h
  omega

theorem InCycle.bounds {day c q y t : Int} (h : InCycle day c q y t) : 0 ≤ day ∧ day < 146097 := by
  obtain ⟨centuries, leaps, years, days, sum⟩ := h
  omega

/-- A leap day is at the end of a year that the next year makes a leap year. -/
theorem InCycle.isLeapYear_next {day c q y : Int} (h : InCycle day c q y 365) (era : Int) :
    isLeapYear (100 * c + 4 * q + y + era * 400 + 1) = true := by
  obtain ⟨centuries, leaps, years, days, sum⟩ := h
  simp only [isLeapYear, decide_eq_true_eq]
  omega

/-- The month that the day `t` of a year from March on is in, and its day there. -/
def monthAndDay (t : Int) : Nat × Nat :=
  let fromMarch := (5 * t + 2) / 153
  ((if fromMarch < 10 then fromMarch + 3 else fromMarch - 9).toNat,
    (t - (153 * fromMarch + 2) / 5 + 1).toNat)

/-- The year from January on in which the day `t` of a year from March on is. -/
def fromJanuary (year t : Int) : Int := if 306 ≤ t then year + 1 else year

section Month
variable {t : Int} (first : 0 ≤ t) (last : t ≤ 365)
include first last

theorem monthAndDay_valid (year : Int)
    (leap : (monthAndDay t).1 ≤ 2 → t = 365 → isLeapYear year = true) :
    1 ≤ (monthAndDay t).1 ∧ (monthAndDay t).1 ≤ 12 ∧ 1 ≤ (monthAndDay t).2 ∧
      (monthAndDay t).2 ≤ daysInMonth year (monthAndDay t).1 := by
  unfold monthAndDay at *
  have bounds : 0 ≤ (5 * t + 2) / 153 ∧ (5 * t + 2) / 153 ≤ 11 := by omega
  generalize month : (5 * t + 2) / 153 = m at *
  obtain ⟨low, high⟩ := bounds
  interval_cases m
  all_goals simp [daysInMonth] at leap ⊢
  case «11» => cases isLeap : isLeapYear year <;> simp [isLeap] at leap ⊢ <;> omega
  all_goals omega

/-- The month and its day tell the day of the year. -/
theorem dayOfYear_monthAndDay :
    ((monthAndDay t).1 ≤ 2 ↔ 306 ≤ t) ∧
      (153 * (((monthAndDay t).1 + 9) % 12 : Nat) + 2) / 5 + ((monthAndDay t).2 : Int) - 1 = t := by
  unfold monthAndDay
  have bounds : 0 ≤ (5 * t + 2) / 153 ∧ (5 * t + 2) / 153 ≤ 11 := by omega
  generalize month : (5 * t + 2) / 153 = m at *
  obtain ⟨low, high⟩ := bounds
  interval_cases m
  all_goals
    simp
    omega

end Month

/-- The calendar of the day that is in the era of 400 years `era` the day `day`. -/
theorem yearMonthDay_of_inCycle {era day c q y t : Int} (h : InCycle day c q y t) :
    yearMonthDay (era * 146097 + day - 719468) =
      (fromJanuary (100 * c + 4 * q + y + era * 400) t, (monthAndDay t).1, (monthAndDay t).2) := by
  have inEra : (era * 146097 + day - 719468 + 719468) % 146097 = day := by
    have := h.bounds
    omega
  have eras : (era * 146097 + day - 719468 + 719468) / 146097 = era := by
    have := h.bounds
    omega
  obtain ⟨first, last⟩ := h.inYear
  have late := (dayOfYear_monthAndDay first last).1
  unfold yearMonthDay
  simp only [inEra, eras, h.year_eq, h.yearStart_eq, sub_sub_cancel]
  refine Prod.ext ?_ rfl
  simp only [monthAndDay] at late ⊢
  generalize (if (5 * t + 2) / 153 < 10 then _ else _ : Int) = month at late ⊢
  have sameMonths : month ≤ 2 ↔ 306 ≤ t := by omega
  simp only [sameMonths, fromJanuary]

/-- Year, month and day of a day number: what they are, and that the day is in the month. -/
theorem yearMonthDay_spec (number : Int) :
    ∃ year : Int, ∃ month day : Nat, yearMonthDay number = (year, month, day) ∧
      (1 ≤ month ∧ month ≤ 12 ∧ 1 ≤ day ∧ day ≤ daysInMonth year month) ∧
      dayNumber year month day = number := by
  obtain ⟨c, q, y, t, h⟩ := @exists_inCycle ((number + 719468) % 146097) (by omega) (by omega)
  have number_eq : number =
      (number + 719468) / 146097 * 146097 + (number + 719468) % 146097 - 719468 := by omega
  generalize (number + 719468) / 146097 = era at number_eq
  generalize (number + 719468) % 146097 = day at number_eq h
  obtain ⟨first, last⟩ := h.inYear
  obtain ⟨late, dayOfYear⟩ := dayOfYear_monthAndDay first last
  rw [number_eq]
  refine ⟨_, _, _, yearMonthDay_of_inCycle h, monthAndDay_valid first last _ ?_, ?_⟩
  · rintro early rfl
    rw [fromJanuary, if_pos (late.1 early)]
    exact h.isLeapYear_next era
  · have year : (if (monthAndDay t).1 ≤ 2 then fromJanuary (100 * c + 4 * q + y + era * 400) t - 1
        else fromJanuary (100 * c + 4 * q + y + era * 400) t) =
        100 * c + 4 * q + y + era * 400 := by
      unfold fromJanuary
      split <;> split <;> omega
    obtain ⟨inEra, eras⟩ := h.inEra era
    have yearStart := h.yearStart_eq
    unfold dayNumber
    simp only [year, inEra, eras, dayOfYear]
    omega

theorem ofYmd?_yearMonthDay (d : Date) :
    ofYmd? (yearMonthDay d.day).1 (yearMonthDay d.day).2.1 (yearMonthDay d.day).2.2 = some d := by
  obtain ⟨year, month, day, parts, valid, number⟩ := yearMonthDay_spec d.day
  rw [parts]
  simp only [ofYmd?]
  rw [if_pos valid, number, ofDay?, dif_pos ⟨d.first_le, d.le_last⟩]

theorem readDigits?_append {cs rest : List Char} {n most : Nat} (numeral : IsNumeral cs n)
    (few : cs.length ≤ most) (ends : EndsDigits rest) :
    readDigits? most (cs ++ rest) = some (n, rest) := by
  have taken : ((cs ++ rest).take most).takeWhile isDigit = cs := by
    rw [List.take_append, List.take_of_length_le few]
    refine numeral.takeWhile_append fun c mem => ends c ?_
    rw [List.head?_take] at mem
    split at mem
    · contradiction
    · exact mem
  simp only [readDigits?, taken, numeral.nonempty, if_false, numeral.value, List.drop_left]

theorem readNumber?_append {cs rest : List Char} {n most : Nat} (numeral : IsNumeral cs n)
    (few : cs.length ≤ most) (ends : EndsDigits rest) :
    readNumber? most (cs ++ rest) = some (n, rest) := by
  rw [readNumber?, numeral.skipBlank_append, readDigits?_append numeral few ends]

theorem readYear?_of_numeral {cs rest : List Char} {n : Nat} (numeral : IsNumeral cs n)
    (few : cs.length ≤ 4) (ends : EndsDigits rest) :
    readYear? (cs ++ rest) = some ((n : Int), rest) := by
  have unsigned (c : Char) (sign : isDigit c = false) (tail : List Char) :
      cs ++ rest ≠ c :: tail := by
    obtain ⟨d, ds, rfl⟩ := List.exists_cons_of_ne_nil numeral.nonempty
    intro same
    obtain rfl : d = c := (List.cons.inj same).1
    rw [numeral.digits d List.mem_cons_self] at sign
    contradiction
  rw [readYear?, numeral.skipBlank_append]
  split
  · next negative => exact absurd negative (unsigned '-' rfl _)
  · next positive => exact absurd positive (unsigned '+' rfl _)
  · rw [readDigits?_append numeral few ends, Option.map_some]

theorem readYear?_yearText (year : Int) {rest : List Char} (ends : EndsDigits rest) :
    readYear? ((yearText year).toList ++ rest) = some (year, rest) := by
  have numeral := isNumeral_zeroPadded 4 year.natAbs
  have few : (zeroPadded 4 year.natAbs).toList.length ≤
      ((zeroPadded 4 year.natAbs).toList ++ rest).length := by simp
  have read := readDigits?_append numeral few ends
  unfold yearText
  split
  · next before =>
    have value : -(year.natAbs : Int) = year := by omega
    have text : ("-" ++ zeroPadded 4 year.natAbs).toList ++ rest =
        '-' :: ((zeroPadded 4 year.natAbs).toList ++ rest) := by simp
    rw [text, readYear?, skipBlank_cons rfl]
    simp only [read, Option.map_some, value]
  · split
    · next before after =>
      have value : (year.natAbs : Int) = year := by omega
      have text : ("+" ++ zeroPadded 4 year.natAbs).toList ++ rest =
          '+' :: ((zeroPadded 4 year.natAbs).toList ++ rest) := by simp
      rw [text, readYear?, skipBlank_cons rfl]
      simp only [read, Option.map_some, value]
    · next before after =>
      have value : (year.natAbs : Int) = year := by omega
      have four : (zeroPadded 4 year.natAbs).toList.length = 4 :=
        length_zeroPadded (by decide) (by omega)
      rw [readYear?_of_numeral numeral four.le ends, value]

theorem readNumber?_two {n : Nat} (fits : n < 100) {rest : List Char} (ends : EndsDigits rest) :
    readNumber? 2 ((zeroPadded 2 n).toList ++ rest) = some (n, rest) :=
  readNumber?_append (isNumeral_zeroPadded 2 n)
    (length_zeroPadded (by decide) fits).le ends

theorem daysInMonth_le (year : Int) (month : Nat) : daysInMonth year month ≤ 31 := by
  unfold daysInMonth
  split
  · split <;> decide
  all_goals decide

theorem readParts?_toText (d : Date) {rest : List Char} (ends : EndsDigits rest) :
    readParts? (d.toText.toList ++ rest) = some (yearMonthDay d.day, rest) := by
  obtain ⟨year, month, day, parts, ⟨-, months, -, days⟩, -⟩ := yearMonthDay_spec d.day
  have fits : day < 100 := by
    have := daysInMonth_le year month
    omega
  have hyphen (cs : List Char) : dropToken? ['-'] (skipBlank ('-' :: cs)) = some cs := by
    rw [skipBlank_cons rfl]
    rfl
  have text : d.toText.toList ++ rest = (yearText year).toList ++
      '-' :: ((zeroPadded 2 month).toList ++ '-' :: ((zeroPadded 2 day).toList ++ rest)) := by
    simp [toText, parts]
  have afterHyphen (cs : List Char) : EndsDigits ('-' :: cs) := endsDigits_cons rfl cs
  simp only [readParts?, text, parts, readYear?_yearText year (afterHyphen _), hyphen,
    readNumber?_two (n := month) (by omega) (afterHyphen _), readNumber?_two fits ends,
    Option.bind_eq_bind, Option.bind_some, pure]

theorem ofText?_toText (d : Date) : ofText? d.toText = some d := by
  have read := readParts?_toText d endsDigits_nil
  rw [List.append_nil] at read
  rw [ofText?, read]
  exact ofYmd?_yearMonthDay d

end Haulage.Date
