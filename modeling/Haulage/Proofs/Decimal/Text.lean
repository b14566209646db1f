import Haulage.Decimal.Text
import Haulage.Proofs.Decimal.Number
import Haulage.Proofs.Text.Numeral

/-! A decimal is read from its own text with all its places. The sign of zero alone is lost: it
is written and not read. -/
namespace Haulage

theorem le_foldl_digits (ds : List Nat) (c : Nat) :
    c ≤ ds.foldl (fun n d => 10 * n + d) c := by
  induction ds generalizing c with
  | nil => exact Nat.le_refl c
  | cons d rest ih => exact (by omega : c ≤ 10 * c + d).trans (ih _)

namespace Decimal

/-- The same number in the same places, with no sign on zero. -/
def unsignedZero (a : Decimal) : Decimal := { a with negative := a.mantissa < 0 }

theorem unsignedZero_mantissa (a : Decimal) : a.unsignedZero.mantissa = a.mantissa := by
  obtain ⟨negative, magnitude, scale, _, _⟩ := a
  cases negative <;> simp [unsignedZero, mantissa]

theorem unsignedZero_scale (a : Decimal) : a.unsignedZero.scale = a.scale := rfl

/-- The same number with the same places. A zero may have either sign. -/
structure Same (a b : Decimal) : Prop where
  number : a.cmp b = .eq
  places : a.scale = b.scale

theorem same_unsignedZero (a : Decimal) : a.Same a.unsignedZero where
  number := by
    rw [cmp, unsignedZero_mantissa, unsignedZero_scale]
    exact Std.ReflCmp.compare_self
  places := rfl

/-- Digits that fit are taken one by one, behind a point each as one more place. -/
theorem readCoefficient?_digits {point digits : Bool} {cs : List Char} {c s : Nat}
    (all : ∀ ch ∈ cs, isDigit ch = true)
    (fits : (cs.filterMap digit?).foldl (fun n d => 10 * n + d) c < twoTo 96)
    (room : s < 28 ∧ point = false ∨ s + cs.length ≤ 28) (rest : List Char) :
    readCoefficient? point digits c s (cs ++ rest) =
      readCoefficient? point (digits || !cs.isEmpty)
        ((cs.filterMap digit?).foldl (fun n d => 10 * n + d) c)
        (if point then s + cs.length else s) rest := by
  induction cs generalizing digits c s with
  | nil => simp
  | cons ch more ih =>
    obtain ⟨here, there⟩ := List.forall_mem_cons.1 all
    obtain ⟨d, read⟩ := Option.isSome_iff_exists.1 here
    rw [List.filterMap_cons_some read, List.foldl_cons] at fits ⊢
    have next : 10 * c + d < twoTo 96 := (le_foldl_digits _ _).trans_lt fits
    have few : ¬ 28 ≤ s := by
      rcases room with ⟨few, _⟩ | few
      · omega
      · simp only [List.length_cons] at few
        omega
    rw [List.cons_append, readCoefficient?, if_neg few, read]
    simp only [next, if_true]
    cases point with
    | false => exact (ih there fits (.inl ⟨Nat.lt_of_not_le few, rfl⟩)).trans (by simp)
    | true =>
      have room' : s + 1 + more.length ≤ 28 := by
        simp at room
        omega
      refine (ih there fits (.inr room')).trans ?_
      simp [Nat.add_assoc, Nat.add_comm 1]

/-- The text of a decimal: the digits of its magnitude, at least one of them before the point and
as many as its scale behind it. -/
theorem exists_toText_eq (a : Decimal) : ∃ whole places : List Char,
    whole ≠ [] ∧ places.length = a.scale ∧ IsNumeral (whole ++ places) a.magnitude ∧
      a.toText.toList = (if a.negative then ['-'] else []) ++
        (whole ++ if a.scale = 0 then [] else '.' :: places) := by
  have numeral := isNumeral_zeroPadded (a.scale + 1) a.magnitude
  have long := le_length_zeroPadded (a.scale + 1) a.magnitude
  rw [toText, String.toList_ofList, List.append_assoc]
  generalize (zeroPadded (a.scale + 1) a.magnitude).toList = ds at *
  refine ⟨ds.take (ds.length - a.scale), ds.drop (ds.length - a.scale), ?_, ?_, ?_, rfl⟩
  · refine List.ne_nil_of_length_pos ?_
    rw [List.length_take]
    omega
  · rw [List.length_drop]
    omega
  · rwa [List.take_append_drop]

theorem readCoefficient?_of_numeral {whole places : List Char} {n : Nat} (nonempty : whole ≠ [])
    (few : places.length ≤ 28) (numeral : IsNumeral (whole ++ places) n) (fits : n < twoTo 96) :
    readCoefficient? false false 0 0
      (whole ++ if places.length = 0 then [] else '.' :: places) = some (n, places.length) := by
  obtain ⟨wholeDigits, placesDigits⟩ := List.forall_mem_append.1 numeral.digits
  have value : (places.filterMap digit?).foldl (fun n d => 10 * n + d)
      ((whole.filterMap digit?).foldl (fun n d => 10 * n + d) 0) = n := by
    rw [← List.foldl_append, ← List.filterMap_append]
    exact numeral.value
  have wholeFits : (whole.filterMap digit?).foldl (fun n d => 10 * n + d) 0 < twoTo 96 :=
    (le_foldl_digits _ _).trans_lt (value ▸ fits)
  rw [readCoefficient?_digits wholeDigits wholeFits (.inl ⟨by decide, rfl⟩),
    List.isEmpty_eq_false_iff.2 nonempty]
  show readCoefficient? false true _ 0 _ = _
  by_cases unscaled : places.length = 0
  · obtain rfl := List.eq_nil_of_length_eq_zero unscaled
    exact congrArg (fun n => some (n, 0)) value
  · have read := @readCoefficient?_digits true true _ _ _ placesDigits (value ▸ fits)
      (.inr (by omega : 0 + places.length ≤ 28)) []
    rw [List.append_nil, value, if_pos rfl, Nat.zero_add] at read
    rw [if_neg unscaled]
    exact read

theorem of?_mantissa (a : Decimal) : of? a.mantissa a.scale = some a.unsignedZero := by
  have magnitude : a.mantissa.natAbs = a.magnitude := by
    unfold mantissa
    split <;> simp
  rw [of?, magnitude, ofParts?, dif_pos ⟨a.magnitude_lt, a.scale_le⟩]
  rfl

theorem ofPlain?_minus (cs : List Char) : ofPlain? ('-' :: cs) =
    (readCoefficient? false false 0 0 cs).bind fun (c, s) => of? (-c) s := rfl

theorem ofPlain?_digit {c : Char} (digit : isDigit c = true) (cs : List Char) :
    ofPlain? (c :: cs) =
      (readCoefficient? false false 0 0 (c :: cs)).bind fun (c, s) => of? c s := by
  have unsigned (sign : Char) (other : isDigit sign = false) (rest : List Char) :
      c :: cs ≠ sign :: rest := by
    rintro same
    rw [(List.cons.inj same).1, other] at digit
    contradiction
  rw [ofPlain?]
  · rfl
  · exact fun rest => unsigned '-' rfl rest
  · exact fun rest => unsigned '+' rfl rest

theorem ofPlain?_toText (a : Decimal) : ofPlain? a.toText.toList = some a.unsignedZero := by
  obtain ⟨whole, places, nonempty, length, numeral, text⟩ := exists_toText_eq a
  have read := readCoefficient?_of_numeral nonempty (length ▸ a.scale_le) numeral a.magnitude_lt
  obtain ⟨c, more, rfl⟩ := List.exists_cons_of_ne_nil nonempty
  have digit : isDigit c = true := numeral.digits c List.mem_cons_self
  have number := of?_mantissa a
  rw [length, List.cons_append] at read
  rw [text, List.cons_append]
  unfold mantissa at number
  cases sign : a.negative with
  | true =>
    rw [sign, if_pos rfl] at number
    rw [if_pos rfl, List.singleton_append, ofPlain?_minus, read]
    exact number
  | false =>
    rw [sign, if_neg Bool.false_ne_true] at number
    rw [if_neg Bool.false_ne_true, List.nil_append, ofPlain?_digit digit, read]
    exact number

theorem ofText?_toText (a : Decimal) : ofText? a.toText = some a.unsignedZero := by
  rw [ofText?, ofPlain?_toText]
  rfl

end Decimal
end Haulage
