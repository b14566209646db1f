import Haulage.Calendar.Timestamp
import Haulage.Proofs.Calendar.Date

/-! A time is read from its own text, to the nanosecond; a leap second keeps its place. -/
namespace Haulage.Timestamp

theorem readFraction?_places {places n : Nat} (positive : 0 < places) (few : places ≤ 9)
    (fits : n < 10 ^ places) {rest : List Char} (ends : EndsDigits rest) :
    readFraction? ('.' :: ((zeroPadded places n).toList ++ rest)) =
      some (n * tenTo (9 - places), rest) := by
  have numeral := isNumeral_zeroPadded places n
  have length := length_zeroPadded positive fits
  have counted : (zeroPadded places n).toList.take 9 = (zeroPadded places n).toList :=
    List.take_of_length_le (by omega)
  simp only [readFraction?, numeral.takeWhile_append ends, numeral.nonempty, if_false, counted,
    numeral.value, numeral.length_filterMap, length, List.drop_left' length]

theorem endsDigits_z : EndsDigits ['Z'] := endsDigits_cons rfl []

/-- A fraction has as many places as it takes to tell it. -/
theorem readFraction?_fractionText {nano : Nat} (fits : nano < 1000000000) :
    readFraction? ((fractionText nano).toList ++ ['Z']) = some (nano, ['Z']) := by
  have pointed (places n : Nat) : ("." ++ zeroPadded places n).toList ++ ['Z'] =
      '.' :: ((zeroPadded places n).toList ++ ['Z']) := by simp
  unfold fractionText
  split
  · next zero =>
    subst zero
    rfl
  split
  · next millis =>
    have whole : nano / 1000000 * tenTo (9 - 3) = nano := by
      show nano / 1000000 * 1000000 = nano
      omega
    rw [pointed, readFraction?_places (by decide) (by decide) (by omega) endsDigits_z, whole]
  split
  · next micros =>
    have whole : nano / 1000 * tenTo (9 - 6) = nano := by
      show nano / 1000 * 1000 = nano
      omega
    rw [pointed, readFraction?_places (by decide) (by decide) (by omega) endsDigits_z, whole]
  · have whole : nano * tenTo (9 - 9) = nano := Nat.mul_one nano
    rw [pointed, readFraction?_places (by decide) (by decide) fits endsDigits_z, whole]

theorem endsDigits_fractionText (nano : Nat) :
    EndsDigits ((fractionText nano).toList ++ ['Z']) := by
  unfold fractionText
  split
  · exact endsDigits_z
  repeat' split
  all_goals
    rw [String.toList_append, List.append_assoc]
    exact endsDigits_cons rfl _

theorem readClock?_clock (t : Timestamp) :
    readClock? ((zeroPadded 2 (t.second / 3600)).toList ++ ':' ::
      ((zeroPadded 2 (t.second / 60 % 60)).toList ++ ':' ::
        ((zeroPadded 2 (t.second % 60 + t.nano / 1000000000)).toList ++
          ((fractionText (t.nano % 1000000000)).toList ++ ['Z'])))) =
      some ((t.second, t.nano), ['Z']) := by
  have colon (cs : List Char) : dropToken? [':'] (skipBlank (':' :: cs)) = some cs := by
    rw [skipBlank_cons rfl]
    rfl
  have afterColon (cs : List Char) : EndsDigits (':' :: cs) := endsDigits_cons rfl cs
  have second_lt := t.second_lt
  have nano_lt := t.nano_lt
  simp only [readClock?, Date.readNumber?_two (n := t.second / 3600) (by omega) (afterColon _), colon,
    Date.readNumber?_two (n := t.second / 60 % 60) (by omega) (afterColon _),
    Date.readNumber?_two (n := t.second % 60 + t.nano / 1000000000) (by omega)
      (endsDigits_fractionText _), readFraction?_fractionText (Nat.mod_lt t.nano (by decide)),
    Option.bind_eq_bind, Option.bind_some]
  have inRange : t.second / 3600 < 24 ∧ t.second / 60 % 60 < 60 ∧
      t.second % 60 + t.nano / 1000000000 ≤ 60 := by omega
  rw [if_pos inRange]
  split
  · next leap =>
    have second : 3600 * (t.second / 3600) + 60 * (t.second / 60 % 60) + 59 = t.second := by omega
    have nano : t.nano % 1000000000 + 1000000000 = t.nano := by omega
    simp only [second, nano, pure]
  · next unleaped =>
    have second : 3600 * (t.second / 3600) + 60 * (t.second / 60 % 60) +
        (t.second % 60 + t.nano / 1000000000) = t.second := by omega
    have nano : t.nano % 1000000000 = t.nano := by omega
    simp only [second, nano, pure]

theorem ofText?_toText (t : Timestamp) : ofText? t.toText = some t := by
  have text : t.toText.toList = t.date.toText.toList ++ 'T' ::
      ((zeroPadded 2 (t.second / 3600)).toList ++ ':' ::
      ((zeroPadded 2 (t.second / 60 % 60)).toList ++ ':' ::
        ((zeroPadded 2 (t.second % 60 + t.nano / 1000000000)).toList ++
          ((fractionText (t.nano % 1000000000)).toList ++ ['Z'])))) := by
    simp [toText]
  have afterDate (cs : List Char) : EndsDigits ('T' :: cs) := endsDigits_cons rfl cs
  have offset : readOffset? (skipBlank ['Z']) = some (0, []) := by
    rw [skipBlank_cons rfl]
    rfl
  simp only [ofText?, text, Date.readParts?_toText t.date (afterDate _), Option.bind_eq_bind,
    Option.bind_some, Date.ofYmd?_yearMonthDay, readClock?_clock, offset]
  rw [if_neg (by decide)]
  have sameDay : t.date.day + ((t.second : Int) - 60 * 0) / 86400 = t.date.day := by
    have := t.second_lt
    omega
  have inDay : (((t.second : Int) - 60 * 0) % 86400).toNat = t.second := by
    have := t.second_lt
    omega
  have date : Date.ofDay? t.date.day = some t.date := dif_pos ⟨t.date.first_le, t.date.le_last⟩
  rw [sameDay, inDay, of?, date]
  exact dif_pos ⟨t.second_lt, t.nano_lt⟩

end Haulage.Timestamp
