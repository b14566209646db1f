import Haulage.Text
import Mathlib.Tactic.Common
import Mathlib.Tactic.IntervalCases

/-! Digits read back as the number that they were written for: decimal numerals, with zeros in
front or without, and hexadecimal digits of a fixed count. -/
namespace Haulage

theorem ofDigits_concat {base : Nat} (ds : List Nat) (d : Nat) :
    ofDigits base (ds ++ [d]) = base * ofDigits base ds + d := by
  simp [ofDigits]

theorem digit?_digitChar {d : Nat} (small : d < 10) : digit? (Nat.digitChar d) = some d := by
  interval_cases d <;> rfl

/-- Digits, at least one, that write the number. -/
structure IsNumeral (cs : List Char) (n : Nat) : Prop where
  nonempty : cs ≠ []
  digits : ∀ c ∈ cs, isDigit c = true
  value : ofDigits 10 (cs.filterMap digit?) = n

theorem isNumeral_toString (n : Nat) : IsNumeral (toString n).toList n := by
  rw [Nat.toString_eq_repr, Nat.toList_repr]
  induction n using Nat.strongRecOn with
  | _ n ih =>
    rw [Nat.toDigits_eq_if (by decide)]
    split
    · next small =>
      have read := digit?_digitChar small
      exact ⟨List.cons_ne_nil _ _, by simp [isDigit, read], by simp [read, ofDigits]⟩
    · next large =>
      have before := ih (n / 10) (by omega)
      have read := digit?_digitChar (Nat.mod_lt n (by decide : 0 < 10))
      refine ⟨by simp, ?_, ?_⟩
      · intro c mem
        rcases List.mem_append.1 mem with mem | mem
        · exact before.digits c mem
        · rw [List.mem_singleton.1 mem, isDigit, read, Option.isSome_some]
      · rw [List.filterMap_append, List.filterMap_cons_some read, List.filterMap_nil,
          ofDigits_concat, before.value, Nat.div_add_mod]

theorem toString_nat_injective : Function.Injective (toString : Nat → String) := by
  intro m n same
  have numeral := isNumeral_toString m
  rw [same] at numeral
  exact numeral.value.symm.trans (isNumeral_toString n).value

/-- No zero stands in front of other digits. -/
theorem eq_zero_of_toString {n : Nat} {rest : List Char} (text : (toString n).toList = '0' :: rest) :
    n = 0 ∧ rest = [] := by
  rw [Nat.toString_eq_repr, Nat.toList_repr] at text
  induction n using Nat.strongRecOn generalizing rest with
  | _ n ih =>
    rw [Nat.toDigits_eq_if (by decide)] at text
    split at text
    · next small =>
      obtain ⟨digit, rfl⟩ := List.cons.inj text
      have read := digit?_digitChar small
      rw [digit] at read
      exact ⟨(Option.some.inj read).symm, rfl⟩
    · next large =>
      obtain ⟨c, more, before⟩ := List.exists_cons_of_ne_nil
        (Nat.toDigits_ne_nil : Nat.toDigits 10 (n / 10) ≠ [])
      rw [before, List.cons_append] at text
      rw [(List.cons.inj text).1] at before
      have := (ih (n / 10) (by omega) before).1
      omega

theorem IsNumeral.zeros {cs : List Char} {n : Nat} (numeral : IsNumeral cs n) (count : Nat) :
    IsNumeral (List.replicate count '0' ++ cs) n := by
  induction count with
  | zero => exact numeral
  | succ count ih =>
    rw [List.replicate_succ, List.cons_append]
    refine ⟨List.cons_ne_nil _ _, List.forall_mem_cons.2 ⟨rfl, ih.digits⟩, ?_⟩
    rw [List.filterMap_cons_some (show digit? '0' = some 0 from rfl)]
    exact ih.value

theorem isNumeral_zeroPadded (width n : Nat) : IsNumeral (zeroPadded width n).toList n := by
  rw [zeroPadded, String.toList_ofList]
  exact (isNumeral_toString n).zeros _

theorem le_length_zeroPadded (width n : Nat) : width ≤ (zeroPadded width n).toList.length := by
  simp only [zeroPadded, String.toList_ofList, List.length_append, List.length_replicate]
  omega

theorem length_zeroPadded {width n : Nat} (positive : 0 < width) (fits : n < 10 ^ width) :
    (zeroPadded width n).toList.length = width := by
  have few : (toString n).toList.length ≤ width := by
    rw [Nat.toString_eq_repr, String.length_toList]
    exact (Nat.length_repr_le_iff positive).2 fits
  simp only [zeroPadded, String.toList_ofList, List.length_append, List.length_replicate]
  omega

/-- What follows a run of digits: no further digit. -/
def EndsDigits (rest : List Char) : Prop := ∀ c ∈ rest.head?, isDigit c = false

theorem endsDigits_nil : EndsDigits [] := nofun

theorem endsDigits_cons {c : Char} (other : isDigit c = false) (rest : List Char) :
    EndsDigits (c :: rest) := by
  intro d mem
  obtain rfl : c = d := Option.some.inj mem
  exact other

namespace IsNumeral
variable {cs rest : List Char} {n : Nat}

theorem takeWhile_append (numeral : IsNumeral cs n) (ends : EndsDigits rest) :
    (cs ++ rest).takeWhile isDigit = cs := by
  rw [List.takeWhile_append_of_pos numeral.digits]
  cases rest with
  | nil => simp
  | cons c rest => simp [ends c rfl]

theorem dropWhile_append (numeral : IsNumeral cs n) (ends : EndsDigits rest) :
    (cs ++ rest).dropWhile isDigit = rest := by
  rw [List.dropWhile_append_of_pos numeral.digits]
  cases rest with
  | nil => simp
  | cons c rest => simp [ends c rfl]

theorem spanDigits_append (numeral : IsNumeral cs n) (ends : EndsDigits rest) :
    spanDigits (cs ++ rest) = (cs.filterMap digit?, rest) := by
  rw [spanDigits, numeral.takeWhile_append ends, numeral.dropWhile_append ends]

theorem length_filterMap (numeral : IsNumeral cs n) :
    (cs.filterMap digit?).length = cs.length := by
  have digits := numeral.digits
  clear numeral
  induction cs with
  | nil => rfl
  | cons c rest ih =>
    obtain ⟨here, there⟩ := List.forall_mem_cons.1 digits
    obtain ⟨d, read⟩ := Option.isSome_iff_exists.1 here
    rw [List.filterMap_cons_some read, List.length_cons, List.length_cons, ih there]

end IsNumeral

theorem digit?_eq_some {c : Char} (digit : isDigit c = true) : '0' ≤ c ∧ c ≤ '9' := by
  unfold isDigit digit? at digit
  split at digit
  · assumption
  · contradiction

theorem isBlank_of_isDigit {c : Char} (digit : isDigit c = true) : isBlank c = false := by
  obtain ⟨low, high⟩ := digit?_eq_some digit
  have low : 48 ≤ c.toNat := low
  have high : c.toNat ≤ 57 := high
  simp [isBlank]
  omega

theorem skipBlank_cons {c : Char} {rest : List Char} (dark : isBlank c = false) :
    skipBlank (c :: rest) = c :: rest := by
  rw [skipBlank, List.dropWhile_cons, dark]
  rfl

theorem IsNumeral.skipBlank_append {cs rest : List Char} {n : Nat} (numeral : IsNumeral cs n) :
    skipBlank (cs ++ rest) = cs ++ rest := by
  obtain ⟨c, tail, rfl⟩ := List.exists_cons_of_ne_nil numeral.nonempty
  exact skipBlank_cons (isBlank_of_isDigit (numeral.digits c List.mem_cons_self))

theorem hexDigit?_hexChar {d : Nat} (small : d < 16) : hexDigit? (hexChar d) = some d := by
  interval_cases d <;> rfl

@[simp] theorem length_hexDigits (count n : Nat) : (hexDigits count n).length = count := by
  induction count generalizing n with
  | zero => rfl
  | succ count ih => rw [hexDigits, List.length_append, ih, List.length_singleton]

/-- The digits in front are those of what is left without the last ones. -/
theorem hexDigits_append (count more n : Nat) :
    hexDigits count (n / 16 ^ more) ++ hexDigits more n = hexDigits (count + more) n := by
  induction more generalizing n with
  | zero => simp [hexDigits]
  | succ more ih =>
    rw [hexDigits, ← List.append_assoc, Nat.pow_succ', ← Nat.div_div_eq_div_mul, ih]
    rfl

theorem mapM_hexDigit?_hexDigits (count n : Nat) :
    ∃ ds, (hexDigits count n).mapM hexDigit? = some ds ∧ ds.length = count ∧
      ofDigits 16 ds = n % 16 ^ count := by
  induction count generalizing n with
  | zero => exact ⟨[], rfl, rfl, by simp [ofDigits, Nat.mod_one]⟩
  | succ count ih =>
    obtain ⟨ds, read, length, value⟩ := ih (n / 16)
    have last := hexDigit?_hexChar (Nat.mod_lt n (by decide : 0 < 16))
    refine ⟨ds ++ [n % 16], ?_, by simp [length], ?_⟩
    · rw [hexDigits, List.mapM_append, read]
      simp [last]
    · rw [ofDigits_concat, value, Nat.pow_succ', Nat.mod_mul]
      omega

end Haulage
