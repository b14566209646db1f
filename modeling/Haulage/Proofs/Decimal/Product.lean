import Haulage.Decimal.Arithmetic
import Haulage.Proofs.Decimal.Number

/-! Products of decimals. However the factors are written, a product that fits is the same
number, and one that does not fit stays without a product. Beyond 47 places of both factors
together this ends, as short factors then give zero. -/
namespace Haulage.Decimal

/-- The magnitude `p / 10 ^ s` is in range without its last `k` digits. -/
def FitsWithout (p s k : Nat) : Prop := s ≤ k + 28 ∧ p / tenTo k < twoTo 96

/-- The number of digits that are given up first. -/
def dropped? (p s : Nat) : Option Nat :=
  (List.range (s + 1)).find? fun k => s ≤ k + 28 && p / tenTo k < twoTo 96

/-- The magnitude without its last `k` digits. -/
def without (p k : Nat) : Nat := if k = 0 then p else roundHalfEven p (tenTo k)

/-- One more digit is given up if rounding has left the range. -/
def fit? (q s : Nat) : Option (Nat × Nat) :=
  if q < twoTo 96 then some (q, s)
  else if s = 0 then none
  else some (roundHalfEven q 10, s - 1)

/-- A magnitude and its scale, in units of the last of 28 places. -/
def placesAt (qs : Nat × Nat) : Nat := qs.1 * tenTo (28 - qs.2)

section Digits
variable {p p' s s' k j n : Nat} {qs : Nat × Nat}

theorem reduce?_eq :
    reduce? p s = (dropped? p s).bind fun k => fit? (without p k) (s - k) := by
  rw [reduce?, ← dropped?]
  cases dropped? p s <;> rfl

theorem dropped?_eq_some :
    dropped? p s = some k ↔ FitsWithout p s k ∧ k ≤ s ∧ ∀ i < k, ¬FitsWithout p s i := by
  simp only [dropped?, List.find?_range_eq_some, List.mem_range, Nat.lt_succ_iff, FitsWithout,
    Bool.and_eq_true, decide_eq_true_eq, Bool.not_eq_true', Bool.and_eq_false_iff,
    decide_eq_false_iff_not, ← not_and_or]

theorem dropped?_eq_none : dropped? p s = none ↔ twoTo 96 ≤ p / tenTo s := by
  simp only [dropped?, List.find?_range_eq_none, Bool.not_eq_true', Bool.and_eq_false_iff,
    decide_eq_false_iff_not]
  constructor
  · intro all
    have last := all s (by omega)
    omega
  · intro large k below
    have fewer : p / tenTo s ≤ p / tenTo k :=
      Nat.div_le_div_left (tenTo_le (by omega)) (tenTo_pos k)
    omega

theorem fitsWithout_zero : FitsWithout p s 0 ↔ s ≤ 28 ∧ p < twoTo 96 := by
  have whole : p / tenTo 0 = p := Nat.div_one p
  rw [FitsWithout, whole, Nat.zero_add]

/-- More zeros at the end are as many more digits to give up. -/
theorem fitsWithout_shift : FitsWithout (p * tenTo j) (s + j) (k + j) ↔ FitsWithout p s k := by
  have same : p * tenTo j / tenTo (k + j) = p / tenTo k := by
    rw [tenTo_add, Nat.mul_div_mul_right _ _ (tenTo_pos j)]
  rw [FitsWithout, FitsWithout, same]
  omega

theorem mul_tenTo_eq (few : k ≤ j) : p * tenTo j = p * tenTo (j - k) * tenTo k := by
  rw [← tenTo_sub few, Nat.mul_comm (tenTo k), Nat.mul_assoc]

theorem fitsWithout_zeros (few : k ≤ j) :
    FitsWithout (p * tenTo j) (s + j) k ↔ s + j ≤ k + 28 ∧ p * tenTo (j - k) < twoTo 96 := by
  rw [FitsWithout, mul_tenTo_eq few, Nat.mul_div_cancel _ (tenTo_pos k)]

theorem fitsWithout_zero_of_zeros (few : k ≤ j) (fits : FitsWithout (p * tenTo j) (s + j) k) :
    FitsWithout p s 0 := by
  obtain ⟨short, small⟩ := (fitsWithout_zeros few).1 fits
  have grows : p ≤ p * tenTo (j - k) := Nat.le_mul_of_pos_right p (tenTo_pos _)
  exact fitsWithout_zero.2 ⟨by omega, by omega⟩

theorem dropped?_shift (dropped : dropped? p s = some k) (some_ : k ≠ 0) :
    dropped? (p * tenTo j) (s + j) = some (k + j) := by
  obtain ⟨fits, within, least⟩ := dropped?_eq_some.1 dropped
  refine dropped?_eq_some.2 ⟨fitsWithout_shift.2 fits, by omega, ?_⟩
  -- Had fewer digits been enough, fewer would have been before: none if they are added zeros.
  intro i below fits'
  by_cases few : i ≤ j
  · exact least 0 (by omega) (fitsWithout_zero_of_zeros few fits')
  · obtain ⟨i, rfl⟩ := Nat.exists_eq_add_of_le' (Nat.le_of_not_le few)
    exact least i (by omega) (fitsWithout_shift.1 fits')

theorem exists_dropped?_of_zero (dropped : dropped? p s = some 0) (j : Nat) :
    ∃ k ≤ j, dropped? (p * tenTo j) (s + j) = some k := by
  obtain ⟨fits, -, -⟩ := dropped?_eq_some.1 dropped
  have found : FitsWithout (p * tenTo j) (s + j) j := by
    simpa using (fitsWithout_shift (k := 0)).2 fits
  cases least : dropped? (p * tenTo j) (s + j) with
  | none =>
    have large := dropped?_eq_none.1 least
    rw [Nat.add_comm, tenTo_add, Nat.mul_comm p, Nat.mul_div_mul_left _ _ (tenTo_pos j)] at large
    have small := (fitsWithout_zero.1 fits).2
    have fewer : p / tenTo s ≤ p := Nat.div_le_self p _
    omega
  | some k =>
    refine ⟨k, ?_, rfl⟩
    by_contra more
    exact (dropped?_eq_some.1 least).2.2 j (by omega) found

/-- Zeros that are given up change nothing. -/
theorem without_zeros (few : k ≤ j) : without (p * tenTo j) k = p * tenTo (j - k) := by
  unfold without
  split
  · next none_ => rw [none_, Nat.sub_zero]
  · rw [mul_tenTo_eq few, roundHalfEven_of_mul _ (tenTo_pos k)]

theorem without_shift (some_ : k ≠ 0) : without (p * tenTo j) (k + j) = without p k := by
  rw [without, without, if_neg (by omega), if_neg some_, tenTo_add,
    roundHalfEven_mul _ _ (tenTo_pos j)]

theorem without_le : without p k ≤ p / tenTo k + 1 := by
  unfold without
  split
  · next none_ =>
    have whole : p / tenTo 0 = p := Nat.div_one p
    rw [none_, whole]
    omega
  · exact roundHalfEven_le p _

theorem without_zero : without p 0 = p := if_pos rfl

theorem without_eq : without p k = roundHalfEven p (tenTo k) := by
  unfold without
  split
  · next none_ =>
    rw [none_]
    exact (roundHalfEven_of_mul p Nat.one_pos).symm.trans (by rw [Nat.mul_one]; rfl)
  · rfl

theorem reduce?_of_fits (short : s ≤ 28) (small : p < twoTo 96) : reduce? p s = some (p, s) := by
  have none_ : dropped? p s = some 0 :=
    dropped?_eq_some.2 ⟨fitsWithout_zero.2 ⟨short, small⟩, Nat.zero_le s, by omega⟩
  rw [reduce?_eq, none_, Option.bind_some, without_zero, fit?, if_pos small, Nat.sub_zero]

/-- A magnitude that ends in more zeros at a larger scale is the same number in range. -/
theorem reduce?_shift :
    (reduce? (p * tenTo j) (s + j)).map placesAt = (reduce? p s).map placesAt := by
  rw [reduce?_eq, reduce?_eq]
  cases dropped : dropped? p s with
  | none =>
    have large : dropped? (p * tenTo j) (s + j) = none := by
      rw [dropped?_eq_none, tenTo_add, Nat.mul_div_mul_right _ _ (tenTo_pos j)]
      exact dropped?_eq_none.1 dropped
    rw [large]
    rfl
  | some k =>
    -- If nothing has to go, only added zeros do; else the same digits go, and all added zeros.
    by_cases none_ : k = 0
    · subst none_
      obtain ⟨k, few, least⟩ := exists_dropped?_of_zero dropped j
      obtain ⟨-, small⟩ := fitsWithout_zero.1 (dropped?_eq_some.1 dropped).1
      obtain ⟨short, small'⟩ := (fitsWithout_zeros few).1 (dropped?_eq_some.1 least).1
      have scales : tenTo (j - k) * tenTo (28 - (s + j - k)) = tenTo (28 - s) := by
        rw [← tenTo_add]
        congr 1
        omega
      simp only [least, Option.bind_some, without_zeros few, without_zero, fit?, if_pos small',
        if_pos small, Option.map_some, placesAt, Nat.mul_assoc, scales, Nat.sub_zero]
    · have places : s + j - (k + j) = s - k := by omega
      simp only [dropped?_shift dropped none_, Option.bind_some, without_shift none_, places]

/-- Equal numbers at two scales are equal in range. -/
theorem reduce?_congr (within : s ≤ n) (within' : s' ≤ n)
    (same : p * tenTo (n - s) = p' * tenTo (n - s')) :
    (reduce? p s).map placesAt = (reduce? p' s').map placesAt := by
  wlog order : s ≤ s' generalizing p p' s s'
  · exact (this within' within same.symm (by omega)).symm
  obtain ⟨j, rfl⟩ := Nat.exists_eq_add_of_le order
  have rest : n - s = j + (n - (s + j)) := by omega
  rw [rest, tenTo_add, ← Nat.mul_assoc] at same
  rw [← Nat.eq_of_mul_eq_mul_right (tenTo_pos _) same, reduce?_shift]

theorem reduce?_bounds (reduced : reduce? p s = some qs) :
    qs.1 < twoTo 96 ∧ qs.2 ≤ 28 ∧ qs.2 ≤ s := by
  rw [reduce?_eq, Option.bind_eq_some_iff] at reduced
  obtain ⟨k, dropped, reduced⟩ := reduced
  obtain ⟨⟨short, small⟩, -, -⟩ := dropped?_eq_some.1 dropped
  rw [fit?] at reduced
  split at reduced
  · next fits =>
    obtain rfl := Option.some.inj reduced
    exact ⟨fits, by simp only; omega, by simp only; omega⟩
  · split at reduced
    · contradiction
    · obtain rfl := Option.some.inj reduced
      have bound := twoTo_96
      have top : without p k ≤ p / tenTo k + 1 := without_le
      have tenth := roundHalfEven_le (without p k) 10
      exact ⟨by simp only; omega, by simp only; omega, by simp only; omega⟩

/-- Only a number that is too large without any places does not get into range. -/
theorem reduce?_eq_none : reduce? p s = none ↔ twoTo 96 ≤ roundHalfEven p (tenTo s) := by
  rw [reduce?_eq]
  cases dropped : dropped? p s with
  | none =>
    have large := dropped?_eq_none.1 dropped
    have := le_roundHalfEven p (tenTo s)
    simp only [Option.bind_none, true_iff]
    omega
  | some k =>
    obtain ⟨⟨-, small⟩, within, -⟩ := dropped?_eq_some.1 dropped
    rw [Option.bind_some, fit?, without_eq]
    rcases Nat.lt_or_eq_of_le within with fewer | rfl
    · -- Places are left, so that the number without them is smaller still.
      have tenth : p / tenTo s ≤ p / tenTo k / 10 := by
        rw [Nat.div_div_eq_div_mul, ← tenTo_succ]
        exact Nat.div_le_div_left (tenTo_le fewer) (tenTo_pos _)
      have top := roundHalfEven_le p (tenTo s)
      have bound := twoTo_96
      have fits : ¬ twoTo 96 ≤ roundHalfEven p (tenTo s) := by omega
      have places : s - k ≠ 0 := by omega
      rw [if_neg places]
      split <;> exact iff_of_false nofun fits
    · rw [if_pos (Nat.sub_self k)]
      split
      · next fits => exact iff_of_false nofun (Nat.not_le.2 fits)
      · next large => exact iff_of_true rfl (Nat.not_lt.1 large)

/-- A number up to an integer stays so when its last places are given up. -/
theorem reduce?_le {m : Nat} (reduced : reduce? p s = some qs) (bound : p ≤ m * tenTo s) :
    qs.1 ≤ m * tenTo qs.2 := by
  rw [reduce?_eq, Option.bind_eq_some_iff] at reduced
  obtain ⟨k, dropped, fitted⟩ := reduced
  obtain ⟨-, within, -⟩ := dropped?_eq_some.1 dropped
  have fewer : without p k ≤ m * tenTo (s - k) := by
    rw [without_eq]
    refine roundHalfEven_le_of_le (tenTo_pos k) ?_
    rwa [Nat.mul_assoc, ← tenTo_add, Nat.sub_add_cancel within]
  rw [fit?] at fitted
  split at fitted
  · obtain rfl := Option.some.inj fitted
    exact fewer
  · split at fitted
    · contradiction
    · next places =>
      obtain rfl := Option.some.inj fitted
      have ten : tenTo (s - k) = tenTo (s - k - 1) * 10 := by
        rw [← tenTo_succ]
        congr 1
        omega
      refine roundHalfEven_le_of_le (by omega) ?_
      rwa [Nat.mul_assoc, ← ten]

end Digits

variable {a a' b b' c : Decimal}

/-- A magnitude with a sign. -/
def signed (negative : Bool) (m : Nat) : Int := if negative then -(m : Int) else m

theorem mul?_of_zero (zero_ : a.magnitude = 0 ∨ b.magnitude = 0) : a.mul? b = some zero := by
  rw [mul?, if_pos]
  tauto

theorem mul?_eq (left : a.magnitude ≠ 0) (right : b.magnitude ≠ 0)
    (short : a.scale + b.scale ≤ 47) :
    a.mul? b = (reduce? (a.magnitude * b.magnitude) (a.scale + b.scale)).bind fun qs =>
      ofParts? ((a.negative ^^ b.negative) && !(qs.1 = 0 && areShort a b)) qs.1 qs.2 := by
  rw [mul?, if_neg]
  · rfl
  · rintro (zero | zero | ⟨-, long⟩)
    · exact left zero
    · exact right zero
    · omega

/-- The sign of a product that rounds to zero is not part of its number. -/
theorem number_mul? (left : a.magnitude ≠ 0) (right : b.magnitude ≠ 0)
    (short : a.scale + b.scale ≤ 47) :
    (a.mul? b).map number =
      ((reduce? (a.magnitude * b.magnitude) (a.scale + b.scale)).map placesAt).map
        (signed (a.negative ^^ b.negative)) := by
  rw [mul?_eq left right short]
  cases reduced : reduce? (a.magnitude * b.magnitude) (a.scale + b.scale) with
  | none => rfl
  | some qs =>
    obtain ⟨q, s⟩ := qs
    have bounds := reduce?_bounds reduced
    simp only [Option.bind_some, Option.map_some, ofParts?, dif_pos (And.intro bounds.1 bounds.2.1)]
    by_cases none_ : q = 0
    · simp [number, withSign, places, placesAt, signed, none_]
    · simp [number, withSign, places, placesAt, signed, none_]

/-- The product of the numbers, in units of the last of 56 places. -/
theorem mul_places (a b : Decimal) :
    a.magnitude * b.magnitude * tenTo (56 - (a.scale + b.scale)) = a.places * b.places := by
  have := a.scale_le
  have := b.scale_le
  have split : 56 - (a.scale + b.scale) = (28 - a.scale) + (28 - b.scale) := by omega
  rw [split, tenTo_add, places, places]
  ring

/-- Equal numbers have equal products. -/
theorem mul?_congr (left : a.number = a'.number) (right : b.number = b'.number)
    (short : a.scale + b.scale ≤ 47) (short' : a'.scale + b'.scale ≤ 47) :
    (a.mul? b).map number = (a'.mul? b').map number := by
  have leftZero : a.magnitude = 0 ↔ a'.magnitude = 0 := by
    rw [← number_eq_zero, ← number_eq_zero, left]
  have rightZero : b.magnitude = 0 ↔ b'.magnitude = 0 := by
    rw [← number_eq_zero, ← number_eq_zero, right]
  by_cases zero_ : a.magnitude = 0 ∨ b.magnitude = 0
  · rw [mul?_of_zero zero_, mul?_of_zero (zero_.imp leftZero.1 rightZero.1)]
  · obtain ⟨some_, some_'⟩ := not_or.1 zero_
    rw [number_mul? some_ some_' short,
      number_mul? (mt leftZero.2 some_) (mt rightZero.2 some_') short',
      negative_congr left some_, negative_congr right some_']
    congr 1
    refine reduce?_congr (n := 56) (by omega) (by omega) ?_
    rw [mul_places, mul_places, places_congr left, places_congr right]

/-- A product of some factors has the digits that are left, and a sign only if one factor has. -/
theorem parts_of_mul? (left : a.magnitude ≠ 0) (right : b.magnitude ≠ 0)
    (short : a.scale + b.scale ≤ 47) (product : a.mul? b = some c) :
    reduce? (a.magnitude * b.magnitude) (a.scale + b.scale) = some (c.magnitude, c.scale) ∧
      (c.negative → (a.negative ^^ b.negative)) := by
  rw [mul?_eq left right short, Option.bind_eq_some_iff] at product
  obtain ⟨qs, reduced, parts⟩ := product
  rw [ofParts?] at parts
  split at parts
  · obtain rfl := Option.some.inj parts
    refine ⟨reduced, ?_⟩
    intro negative
    exact (Bool.and_eq_true_iff.1 negative).1
  · contradiction

theorem mul?_eq_none (short : a.scale + b.scale ≤ 47) : a.mul? b = none ↔
    twoTo 96 ≤ roundHalfEven (a.magnitude * b.magnitude) (tenTo (a.scale + b.scale)) := by
  by_cases zero_ : a.magnitude = 0 ∨ b.magnitude = 0
  · have nothing : a.magnitude * b.magnitude = 0 := Nat.mul_eq_zero.2 zero_
    rw [mul?_of_zero zero_, nothing, roundHalfEven_zero (tenTo_pos _)]
    simp [twoTo]
  · obtain ⟨left, right⟩ := not_or.1 zero_
    rw [mul?_eq left right short, ← reduce?_eq_none]
    cases reduced : reduce? (a.magnitude * b.magnitude) (a.scale + b.scale) with
    | none => simp
    | some qs =>
      obtain ⟨small, within, -⟩ := reduce?_bounds reduced
      simp [ofParts?, small, within]

/-- Digits of a product that some decimal has are left as they are. -/
theorem reduce?_of_places (same : a.places * b.places = c.places * tenTo 28) :
    (reduce? (a.magnitude * b.magnitude) (a.scale + b.scale)).map placesAt = some c.places := by
  have within := a.scale_le
  have within' := b.scale_le
  have short := c.scale_le
  have digits : a.magnitude * b.magnitude * tenTo (56 - (a.scale + b.scale)) =
      c.magnitude * tenTo (56 - c.scale) := by
    have split : 56 - c.scale = 28 - c.scale + 28 := by omega
    rw [mul_places, same, split, tenTo_add, ← Nat.mul_assoc]
    rfl
  rw [reduce?_congr (by omega) (by omega) digits, reduce?_of_fits short c.magnitude_lt]
  rfl

/-- A product that is at most an integer in range is there, and at most that integer. -/
theorem exists_mul?_of_le {m : Nat} (left : a.magnitude ≠ 0) (right : b.magnitude ≠ 0)
    (short : a.scale + b.scale ≤ 47) (small : m < twoTo 96)
    (part : a.magnitude * b.magnitude ≤ m * tenTo (a.scale + b.scale)) :
    ∃ c, a.mul? b = some c ∧ c.magnitude ≤ m * tenTo c.scale ∧
      (c.negative → (a.negative ^^ b.negative)) := by
  cases product : a.mul? b with
  | none =>
    have large := (mul?_eq_none short).1 product
    have most := roundHalfEven_le_of_le (tenTo_pos _) part
    omega
  | some c =>
    obtain ⟨reduced, sign⟩ := parts_of_mul? left right short product
    exact ⟨c, rfl, reduce?_le reduced part, sign⟩

theorem exists_mul? (small : a.magnitude * b.magnitude < twoTo 96)
    (short : a.scale + b.scale ≤ 28) :
    ∃ c, a.mul? b = some c := by
  by_cases zero_ : a.magnitude = 0 ∨ b.magnitude = 0
  · exact ⟨zero, mul?_of_zero zero_⟩
  · obtain ⟨left, right⟩ := not_or.1 zero_
    rw [mul?_eq left right (by omega), reduce?_of_fits short small, Option.bind_some, ofParts?,
      dif_pos ⟨small, short⟩]
    exact ⟨_, rfl⟩

theorem scale_le_of_mul? (product : a.mul? b = some c) : c.scale ≤ a.scale + b.scale := by
  unfold mul? at product
  split at product
  · obtain rfl := Option.some.inj product
    exact Nat.zero_le _
  · obtain ⟨qs, reduced, product⟩ := Option.bind_eq_some_iff.1 product
    obtain ⟨-, -, bound⟩ := reduce?_bounds reduced
    simp only [ofParts?] at product
    split at product
    · obtain rfl := Option.some.inj product
      exact bound
    · contradiction

end Haulage.Decimal
