import Haulage.Proofs.Decimal.Product

/-! Quotients of decimals by powers of ten. Long division by a power of ten always comes to an
end in range: the quotient is the number rounded once, at the last of 28 places. -/
namespace Haulage.Decimal

section Division
variable {n d s q r t e x fuel : Nat}

theorem room_eq : room q t =
    (([9, 8, 7, 6, 5, 4, 3, 2, 1] ++ [0]).find? fun x =>
      t + x ≤ 28 && q * tenTo x < twoTo 96).getD 0 := by
  rw [room, List.getLastD_eq_getLast?, List.getLast?_filter]
  rfl

theorem room_fits (some_ : room q t ≠ 0) :
    t + room q t ≤ 28 ∧ q * tenTo (room q t) < twoTo 96 := by
  rw [room_eq] at some_ ⊢
  cases found : ([9, 8, 7, 6, 5, 4, 3, 2, 1] ++ [0]).find? fun x =>
      t + x ≤ 28 && q * tenTo x < twoTo 96 with
  | none =>
    rw [found] at some_
    contradiction
  | some x => simpa using List.find?_some found

/-- There is room for a digit unless the places or the bits are used up. -/
theorem room_ne_zero (short : t < 28) (small : q * 10 < twoTo 96) : room q t ≠ 0 := by
  have one : ([9, 8, 7, 6, 5, 4, 3, 2, 1].find? fun x =>
      t + x ≤ 28 && q * tenTo x < twoTo 96).isSome := by
    refine List.find?_isSome.2 ⟨1, by simp, ?_⟩
    simp only [Bool.and_eq_true, decide_eq_true_eq]
    exact ⟨by omega, small⟩
  obtain ⟨x, found⟩ := Option.isSome_iff_exists.1 one
  rw [room_eq, List.find?_append, found]
  have digit := List.mem_of_find?_eq_some found
  intro zero
  obtain rfl : x = 0 := zero
  simp at digit

/-- What long division of `n / 10 ^ s` by `d` has come to at the scale `t`. -/
structure Carried (n d s q r t : Nat) : Prop where
  from_ : s ≤ t
  within : t ≤ 28
  digits : q * d + r = n * tenTo (t - s)
  rest : r < d
  bound : q < 10 * twoTo 96

/-- A result at the scale `t` that is the quotient, rounded at the last place. Where it leaves
the range, it ends in a zero that can be dropped. -/
structure Ends (n d s : Nat) (qt : Nat × Nat) : Prop where
  within : qt.2 ≤ 28
  places : placesAt qt = roundHalfEven (n * tenTo (28 - s)) d
  range : qt.1 < twoTo 96 ∨ (10 ∣ qt.1 ∧ 0 < qt.2 ∧ qt.1 < 10 * twoTo 96)

theorem carried_start (within : s ≤ 28) (small : n < twoTo 96) (pos : 0 < d) :
    Carried n d s (n / d) (n % d) s := by
  refine ⟨Nat.le_refl s, within, ?_, Nat.mod_lt n pos, ?_⟩
  · rw [Nat.sub_self, Nat.div_add_mod']
    exact (Nat.mul_one n).symm
  · have fewer := Nat.div_le_self n d
    omega

theorem Carried.step (carried : Carried n d s q r t) (some_ : room q t ≠ 0) :
    Carried n d s (q * tenTo (room q t) + r * tenTo (room q t) / d) (r * tenTo (room q t) % d)
      (t + room q t) := by
  obtain ⟨within, small⟩ := room_fits some_
  generalize room q t = x at *
  have pos : 0 < d := by have := carried.rest; omega
  refine ⟨by have := carried.from_; omega, within, ?_, Nat.mod_lt _ pos, ?_⟩
  · have places : t + x - s = t - s + x := by have := carried.from_; omega
    calc (q * tenTo x + r * tenTo x / d) * d + r * tenTo x % d
        = q * tenTo x * d + (r * tenTo x / d * d + r * tenTo x % d) := by ring
      _ = (q * d + r) * tenTo x := by rw [Nat.div_add_mod']; ring
      _ = n * tenTo (t + x - s) := by rw [carried.digits, places, tenTo_add, Nat.mul_assoc]
  · have digit : r * tenTo x / d < tenTo x := by
      rw [Nat.div_lt_iff_lt_mul pos, Nat.mul_comm (tenTo x)]
      exact Nat.mul_lt_mul_of_pos_right carried.rest (tenTo_pos x)
    by_cases none_ : q = 0
    · have most : tenTo x ≤ tenTo 28 := tenTo_le (by omega)
      have fits : tenTo 28 ≤ 10 * twoTo 96 := by decide
      simp only [none_, Nat.zero_mul, Nat.zero_add]
      omega
    · have more : tenTo x ≤ q * tenTo x := Nat.le_mul_of_pos_left _ (Nat.pos_of_ne_zero none_)
      omega

/-- While there is a remainder, the divisor has more zeros than digits have been taken. -/
theorem Carried.room (carried : Carried n (tenTo e) s q r t) (small : n < twoTo 96)
    (remains : r ≠ 0) : q * 10 < twoTo 96 := by
  have few : t - s < e := by
    by_contra many
    have even : tenTo e ∣ q * tenTo e + r := by
      rw [carried.digits]
      exact Nat.dvd_mul_left_of_dvd (tenTo_dvd (Nat.le_of_not_lt many)) n
    have divides := (Nat.dvd_add_right (Dvd.intro_left q rfl)).1 even
    have := Nat.le_of_dvd (Nat.pos_of_ne_zero remains) divides
    have := carried.rest
    omega
  have scaled : q * tenTo (e - (t - s)) * tenTo (t - s) ≤ n * tenTo (t - s) := by
    rw [Nat.mul_assoc, ← tenTo_add, Nat.sub_add_cancel (Nat.le_of_lt few)]
    have := carried.digits
    omega
  have whole := Nat.le_of_mul_le_mul_right scaled (tenTo_pos _)
  have ten : q * tenTo 1 ≤ q * tenTo (e - (t - s)) := Nat.mul_le_mul_left q (tenTo_le (by omega))
  exact Nat.lt_of_le_of_lt (Nat.le_trans ten whole) small

theorem Carried.ends_even (carried : Carried n (tenTo e) s q 0 t) (small : n < twoTo 96) :
    Ends n (tenTo e) s (q, t) := by
  obtain ⟨from_, within, digits, -, bound⟩ := carried
  rw [Nat.add_zero] at digits
  refine ⟨within, ?_, ?_⟩
  · have places : 28 - s = t - s + (28 - t) := by omega
    have even : n * tenTo (28 - s) = q * tenTo (28 - t) * tenTo e := by
      rw [places, tenTo_add, ← Nat.mul_assoc, ← digits]
      ring
    rw [even, roundHalfEven_of_mul _ (tenTo_pos e), placesAt]
  · by_cases fits : q < twoTo 96
    · exact .inl fits
    · -- The quotient exceeds the dividend, so it has more places than the divisor has zeros.
      refine .inr ⟨?_, ?_, bound⟩
      all_goals
        by_cases few : t - s ≤ e
        · have scaled : q * tenTo (e - (t - s)) * tenTo (t - s) = n * tenTo (t - s) := by
            rw [Nat.mul_assoc, ← tenTo_add, Nat.sub_add_cancel few, digits]
          have whole := Nat.eq_of_mul_eq_mul_right (tenTo_pos _) scaled
          have more := Nat.le_mul_of_pos_right q (tenTo_pos (e - (t - s)))
          omega
      · obtain ⟨k, zeros⟩ := Nat.exists_eq_add_of_lt (Nat.lt_of_not_le few)
        rw [zeros, Nat.add_assoc, Nat.add_comm e, tenTo_add, ← Nat.mul_assoc] at digits
        rw [Nat.eq_of_mul_eq_mul_right (tenTo_pos e) digits, tenTo_succ, ← Nat.mul_assoc]
        exact Nat.dvd_mul_left 10 _
      · omega

/-- Without room the remainder decides on the last place. -/
theorem Carried.ends_full (carried : Carried n (tenTo e) s q r 28) (fits : q * 10 < twoTo 96) :
    Ends n (tenTo e) s
      (if 2 * r < tenTo e ∨ (2 * r = tenTo e ∧ q % 2 = 0) then q else q + 1, 28) := by
  obtain ⟨-, -, digits, rest, -⟩ := carried
  have quotient : (q * tenTo e + r) / tenTo e = q := by
    rw [Nat.add_comm, Nat.add_mul_div_right _ _ (tenTo_pos e), Nat.div_eq_of_lt rest, Nat.zero_add]
  have remainder : (q * tenTo e + r) % tenTo e = r := by
    rw [Nat.add_comm, Nat.add_mul_mod_self_right, Nat.mod_eq_of_lt rest]
  refine ⟨Nat.le_refl 28, ?_, .inl ?_⟩
  · rw [← digits, roundHalfEven, quotient, remainder, placesAt]
    exact Nat.mul_one _
  · have bound := twoTo_96
    simp only
    split <;> omega

theorem divideOn_ends (small : n < twoTo 96) (carried : Carried n (tenTo e) s q r t)
    (enough : 29 ≤ fuel + t) : Ends n (tenTo e) s (divideOn (tenTo e) fuel q r t) := by
  -- Every round takes a place, so the places are used up before the fuel is.
  induction fuel generalizing q r t with
  | zero =>
    have := carried.within
    omega
  | succ fuel ih =>
    rw [divideOn]
    by_cases even : r = 0
    · subst even
      rw [if_pos rfl]
      exact carried.ends_even small
    · have fits := carried.room small even
      rw [if_neg even]
      by_cases full : room q t = 0
      · obtain rfl : t = 28 := by
          by_contra short
          have := carried.within
          exact room_ne_zero (by omega) fits full
        simp only [full, if_true]
        exact carried.ends_full fits
      · simp only [full, if_false]
        exact ih (carried.step full) (by omega)

/-- The same number with some of the zeros behind its point, all of them or none, left out. -/
def Shortens (qt qt' : Nat × Nat) : Prop := ∃ k, qt.1 = qt'.1 * tenTo k ∧ qt.2 = qt'.2 + k

variable {qt qt' qt'' : Nat × Nat}

theorem Shortens.refl : Shortens qt qt := ⟨0, (Nat.mul_one _).symm, rfl⟩

theorem Shortens.trans (first : Shortens qt qt') (second : Shortens qt' qt'') :
    Shortens qt qt'' := by
  obtain ⟨k, digits, scale⟩ := first
  obtain ⟨k', digits', scale'⟩ := second
  refine ⟨k' + k, ?_, by omega⟩
  rw [digits, digits', tenTo_add, Nat.mul_assoc]

theorem Shortens.of_dvd {k : Nat} (zeros : q % tenTo k = 0) (some_ : k ≤ t) :
    Shortens (q, t) (q / tenTo k, t - k) :=
  ⟨k, (Nat.div_mul_cancel (Nat.dvd_of_mod_eq_zero zeros)).symm, (Nat.sub_add_cancel some_).symm⟩

theorem shortens_dropEights : Shortens (q, t) (dropEights fuel q t) := by
  induction fuel generalizing q t with
  | zero => exact .refl
  | succ fuel ih =>
    rw [dropEights]
    split
    · next zeros => exact (Shortens.of_dvd zeros.2.2 zeros.2.1).trans ih
    · exact .refl

theorem shortens_dropZeros : Shortens qt (dropZeros n qt) := by
  unfold dropZeros
  split
  · next zeros => exact .of_dvd zeros.1 zeros.2
  · exact .refl

theorem shortens_dropTrailing : Shortens (q, t) (dropTrailing q t) :=
  shortens_dropEights.trans <| shortens_dropZeros.trans <| shortens_dropZeros.trans
    shortens_dropZeros

theorem Shortens.placesAt_eq (shortens : Shortens qt qt') (within : qt.2 ≤ 28) :
    placesAt qt' = placesAt qt := by
  obtain ⟨k, digits, scale⟩ := shortens
  have places : 28 - qt'.2 = k + (28 - qt.2) := by omega
  rw [placesAt, placesAt, digits, places, tenTo_add, Nat.mul_assoc]

/-- Either no zero is left out, or a coefficient loses a digit. -/
theorem Shortens.eq_or_le (shortens : Shortens qt qt') : qt' = qt ∨ qt'.1 * 10 ≤ qt.1 := by
  obtain ⟨k, digits, scale⟩ := shortens
  by_cases none_ : k = 0
  · subst none_
    exact .inl (Prod.ext (digits.trans (Nat.mul_one _)).symm scale.symm)
  · right
    rw [digits]
    exact Nat.mul_le_mul_left _ (tenTo_le (m := 1) (by omega))

theorem Shortens.le (shortens : Shortens qt qt') : qt'.1 ≤ qt.1 := by
  rcases shortens.eq_or_le with same | less
  · rw [same]
  · omega

/-- A zero at the end is always dropped, with others or as the last. -/
theorem dropTrailing_le (zero_ : 10 ∣ q) (some_ : 0 < t) : (dropTrailing q t).1 * 10 ≤ q := by
  obtain ⟨rest, before, last⟩ : ∃ rest, Shortens (q, t) rest ∧
      dropTrailing q t = dropZeros 1 rest :=
    ⟨_, shortens_dropEights.trans (shortens_dropZeros.trans shortens_dropZeros), rfl⟩
  rw [last]
  rcases before.eq_or_le with rfl | less
  · rw [dropZeros, if_pos ⟨Nat.mod_eq_zero_of_dvd zero_, some_⟩]
    exact Nat.div_mul_le_self q 10
  · have fewer : (dropZeros 1 rest).1 ≤ rest.1 := shortens_dropZeros.le
    simp only at less
    omega

/-- Nine digits are taken at once where there is room for them. -/
theorem room_eq_nine (short : t + 9 ≤ 28) (small : q * tenTo 9 < twoTo 96) : room q t = 9 := by
  rw [room_eq, List.cons_append, List.find?_cons_of_pos]
  · rfl
  · simp [short, small]

/-- A division ends with the first digits that leave no remainder. -/
theorem divideOn_places (some_ : room q t ≠ 0) (even : r * tenTo (room q t) % d = 0) :
    (divideOn d (fuel + 2) q r t).2 ≤ t + room q t := by
  rw [divideOn]
  split
  · exact Nat.le_add_right t _
  · simp only [some_, if_false, even]
    rw [divideOn, if_pos rfl]

theorem Ends.dropTrailing (ends : Ends n d s qt) :
    (dropTrailing qt.1 qt.2).1 < twoTo 96 ∧ (dropTrailing qt.1 qt.2).2 ≤ 28 ∧
      placesAt (dropTrailing qt.1 qt.2) = roundHalfEven (n * tenTo (28 - s)) d := by
  have shortens : Shortens qt (Decimal.dropTrailing qt.1 qt.2) := shortens_dropTrailing
  refine ⟨?_, ?_, (shortens.placesAt_eq ends.within).trans ends.places⟩
  · rcases ends.range with fits | ⟨zero_, some_, bound⟩
    · rcases shortens.eq_or_le with same | less
      · rw [same]
        exact fits
      · omega
    · have := dropTrailing_le zero_ some_
      omega
  · obtain ⟨k, -, scale⟩ := shortens
    have := ends.within
    omega

end Division

variable {a b c : Decimal} {d e q s : Nat}

theorem exists_of? (small : q < twoTo 96) (within : s ≤ 28) :
    ∃ b, of? (a.withSign q) s = some b ∧ b.number = a.withSign (placesAt (q, s)) := by
  have size : (a.withSign q).natAbs = q := by
    unfold withSign
    split <;> simp
  refine ⟨⟨a.withSign q < 0, (a.withSign q).natAbs, s, by rwa [size], within⟩, ?_, ?_⟩
  · rw [of?, ofParts?, dif_pos ⟨by rwa [size], within⟩]
  · cases sign : a.negative with
    | false => simp [number, places, placesAt, withSign, sign]
    | true =>
      by_cases none_ : q = 0 <;> simp [number, places, placesAt, withSign, sign, none_]

/-- The quotient by a power of ten is the number, rounded at the last of 28 places. -/
theorem exists_div? (a : Decimal) (e : Nat) :
    ∃ b, a.div? (tenTo e) = some b ∧
      b.number = a.withSign (roundHalfEven a.places (tenTo e)) := by
  by_cases zero_ : a.magnitude = 0
  · refine ⟨zero, by rw [div?, if_pos zero_], ?_⟩
    rw [places_eq_zero.2 zero_, roundHalfEven_zero (tenTo_pos e)]
    unfold withSign
    split <;> rfl
  · have carried := carried_start a.scale_le a.magnitude_lt (tenTo_pos e)
    rw [div?, if_neg zero_]
    by_cases even : a.magnitude % tenTo e = 0
    · rw [even] at carried
      have ends := carried.ends_even a.magnitude_lt
      have small := Nat.lt_of_le_of_lt (Nat.div_le_self a.magnitude (tenTo e)) a.magnitude_lt
      obtain ⟨b, quotient, number⟩ := exists_of? (a := a) small a.scale_le
      refine ⟨b, ?_, ?_⟩
      · simpa only [even, if_true] using quotient
      · rw [number, ends.places, places]
    · have ends := divideOn_ends a.magnitude_lt carried (Nat.le_add_right 29 a.scale)
      obtain ⟨small, within, places⟩ := ends.dropTrailing
      obtain ⟨b, quotient, number⟩ := exists_of? (a := a) small within
      refine ⟨b, ?_, ?_⟩
      · simpa only [even, if_false] using quotient
      · rw [number]
        exact congrArg a.withSign places

/-- Equal numbers have equal quotients. -/
theorem div?_congr {a' : Decimal} (same : a.number = a'.number) (e : Nat) :
    ∃ b b', a.div? (tenTo e) = some b ∧ a'.div? (tenTo e) = some b' ∧ b.number = b'.number := by
  obtain ⟨b, quotient, number⟩ := exists_div? a e
  obtain ⟨b', quotient', number'⟩ := exists_div? a' e
  refine ⟨b, b', quotient, quotient', ?_⟩
  rw [number, number', ← places_congr same]
  refine withSign_congr same ?_
  intro zero_
  rw [places_eq_zero.2 zero_, roundHalfEven_zero (tenTo_pos e)]

/-- A division that comes out even needs no further places. -/
theorem scale_le_of_div? (even : a.magnitude % d = 0) (quotient : a.div? d = some b) :
    b.scale ≤ a.scale := by
  unfold div? at quotient
  split at quotient
  · obtain rfl := Option.some.inj quotient
    exact Nat.zero_le _
  · simp only [even, if_true, of?, ofParts?] at quotient
    split at quotient
    · obtain rfl := Option.some.inj quotient
      exact Nat.le_refl _
    · contradiction

/-- A division by up to nine zeros takes at most nine further places. -/
theorem scale_le_of_div?_tenTo (few : e ≤ 9) (short : a.scale + 9 ≤ 28)
    (small : a.magnitude * tenTo 9 < twoTo 96) (quotient : a.div? (tenTo e) = some b) :
    b.scale ≤ a.scale + 9 := by
  by_cases even : a.magnitude % tenTo e = 0
  · exact (scale_le_of_div? even quotient).trans (Nat.le_add_right _ 9)
  · have whole : a.magnitude / tenTo e * tenTo 9 < twoTo 96 :=
      (Nat.mul_le_mul_right _ (Nat.div_le_self _ _)).trans_lt small
    have nine : room (a.magnitude / tenTo e) a.scale = 9 := room_eq_nine short whole
    have places : (divideOn (tenTo e) 29 (a.magnitude / tenTo e) (a.magnitude % tenTo e)
        a.scale).2 ≤ a.scale + room (a.magnitude / tenTo e) a.scale := by
      refine divideOn_places (by omega) ?_
      rw [nine]
      exact Nat.mod_eq_zero_of_dvd (Nat.dvd_mul_left_of_dvd (tenTo_dvd few) _)
    unfold div? at quotient
    split at quotient
    · obtain rfl := Option.some.inj quotient
      exact Nat.zero_le _
    · simp only [even, if_false] at quotient
      generalize divideOn (tenTo e) 29 (a.magnitude / tenTo e) (a.magnitude % tenTo e) a.scale =
        qt at places quotient
      obtain ⟨k, -, dropped⟩ : Shortens qt (dropTrailing qt.1 qt.2) := shortens_dropTrailing
      rw [of?, ofParts?] at quotient
      split at quotient
      · obtain rfl := Option.some.inj quotient
        simp only
        omega
      · contradiction

end Haulage.Decimal
