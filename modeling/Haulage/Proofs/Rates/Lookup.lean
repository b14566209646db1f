import Haulage.Proofs.Rates.Validation

/-! A rate that is looked up under its code is the one that a scan of all reference rows comes to:
of the rows that cover the question the one that came into effect last, and of those that came
into effect at once from one weight the last in the list. -/
namespace Haulage

namespace TariffRate
variable {row other : TariffRate} {code : String} {weight : Pounds} {date : Date}
  {miles : Option Miles}

/-- The row is for this code, weight, date and mileage. One with a bound on the distance asks
for miles. -/
structure Covers (row : TariffRate) (code : String) (weight : Pounds) (date : Date)
    (miles : Option Miles) : Prop where
  code : row.code = code
  date : row.dateLower ≤ date ∧ date < row.dateUpper
  weight : row.weightLower ≤ weight.val ∧ weight.val < row.weightUpper
  miles : row.milesLower ≠ none ∨ row.milesUpper ≠ none →
    ∃ m ∈ miles, (∀ lower ∈ row.milesLower, lower ≤ m) ∧ ∀ upper ∈ row.milesUpper, m < upper

/-- The row came into effect earlier than the other, or on the same day from a lower weight. -/
def Before (row other : TariffRate) : Prop :=
  row.dateLower < other.dateLower ∨
    (row.dateLower = other.dateLower ∧ row.weightLower < other.weightLower)

/-- Both rows came into effect on one day from one weight. -/
def Ties (row other : TariffRate) : Prop :=
  row.dateLower = other.dateLower ∧ row.weightLower = other.weightLower

instance (row other : TariffRate) : Decidable (row.Ties other) :=
  inferInstanceAs (Decidable (_ ∧ _))

theorem coversMiles_iff : row.coversMiles miles ↔
    (row.milesLower ≠ none ∨ row.milesUpper ≠ none → ∃ m ∈ miles,
      (∀ lower ∈ row.milesLower, lower ≤ m) ∧ ∀ upper ∈ row.milesUpper, m < upper) := by
  unfold coversMiles
  cases row.milesLower <;> cases row.milesUpper <;> simp [Option.any_eq_true]

theorem applies_iff : row.applies code weight date miles ↔ row.Covers code weight date miles := by
  simp only [applies, Bool.and_eq_true, decide_eq_true_eq, coversMiles_iff]
  constructor
  · rintro ⟨⟨⟨⟨⟨code, from_⟩, to_⟩, light⟩, heavy⟩, miles⟩
    exact ⟨code, ⟨from_, to_⟩, ⟨light, heavy⟩, miles⟩
  · rintro ⟨code, ⟨from_, to_⟩, ⟨light, heavy⟩, miles⟩
    exact ⟨⟨⟨⟨⟨code, from_⟩, to_⟩, light⟩, heavy⟩, miles⟩

instance : Decidable (row.Covers code weight date miles) := decidable_of_iff _ applies_iff

theorem Ties.refl (row : TariffRate) : row.Ties row := ⟨rfl, rfl⟩

theorem Ties.iff_of_ties (tie : row.Ties other) (r : TariffRate) : r.Ties row ↔ r.Ties other := by
  rw [Ties, Ties, tie.1, tie.2]

theorem before_iff : row.Before other ↔ row.dateLower.day < other.dateLower.day ∨
    (row.dateLower.day = other.dateLower.day ∧
      row.weightLower.toInt < other.weightLower.toInt) := by
  rw [Before, ← Date.day_inj, Int64.lt_iff_toInt_lt]
  rfl

theorem ties_iff : row.Ties other ↔ row.dateLower.day = other.dateLower.day ∧
    row.weightLower.toInt = other.weightLower.toInt := by
  rw [Ties, Date.day_inj, Int64.toInt_inj]

theorem before_or_ties_or_before (row other : TariffRate) :
    row.Before other ∨ row.Ties other ∨ other.Before row := by
  rw [before_iff, ties_iff, before_iff]
  omega

theorem not_before_trans {r : TariffRate} (first : ¬ row.Before other) (second : ¬ other.Before r) :
    ¬ row.Before r := by
  rw [before_iff] at *
  omega

theorem Before.asymm (before : row.Before other) : ¬ other.Before row := by
  rw [before_iff] at *
  omega

theorem Before.not_ties (before : row.Before other) : ¬ row.Ties other := by
  rw [before_iff] at before
  rw [ties_iff]
  omega

theorem supersedes_iff : RateTable.supersedes row other ↔ ¬ row.Before other := by
  have dates : other.dateLower = row.dateLower ↔ row.dateLower.day = other.dateLower.day :=
    Date.day_inj.symm.trans eq_comm
  have earlier : other.dateLower < row.dateLower ↔ other.dateLower.day < row.dateLower.day :=
    Iff.rfl
  rw [before_iff, RateTable.supersedes, Bool.or_eq_true, Bool.and_eq_true, decide_eq_true_eq,
    decide_eq_true_eq, decide_eq_true_eq, dates, earlier, Int64.le_iff_toInt_le]
  omega

end TariffRate

namespace RateTable
variable {rows others : List TariffRate} {row : TariffRate}

/-- No row is greater, and those that tie stand before it. -/
def Latest (rows : List TariffRate) (row : TariffRate) : Prop :=
  ∃ before after, rows = before ++ row :: after ∧
    (∀ r ∈ before, ¬ row.Before r) ∧ ∀ r ∈ after, r.Before row

theorem Latest.mem (latest : Latest rows row) : row ∈ rows := by
  obtain ⟨before, after, rfl, -, -⟩ := latest
  simp

theorem Latest.not_before (latest : Latest rows row) {r : TariffRate} (mem : r ∈ rows) :
    ¬ row.Before r := by
  obtain ⟨before, after, rfl, earlier, later⟩ := latest
  rcases List.mem_append.1 mem with mem | mem
  · exact earlier r mem
  · rcases List.mem_cons.1 mem with rfl | mem
    · exact fun less => less.asymm less
    · exact (later r mem).asymm

theorem latest?_concat : latest? (rows ++ [row]) =
    if (latest? rows).all (supersedes row ·) then some row else latest? rows := by
  rw [latest?, List.foldl_append]
  rfl

theorem latest?_eq_none : latest? rows = none ↔ rows = [] := by
  induction rows using List.reverseRecOn with
  | nil => simp [latest?]
  | append_singleton rows row ih =>
    rw [latest?_concat]
    cases best : latest? rows with
    | none => simp
    | some b => by_cases supersedes row b <;> simp [*]

theorem latest_of_latest? (best : latest? rows = some row) : Latest rows row := by
  -- From the end, as the last row is compared with the latest of those before it.
  induction rows using List.reverseRecOn generalizing row with
  | nil => simp [latest?] at best
  | append_singleton rows last ih =>
    rw [latest?_concat] at best
    split at best
    · next unsurpassed =>
      obtain rfl := Option.some.inj best
      refine ⟨rows, [], rfl, ?_, by simp⟩
      intro r mem
      cases before : latest? rows with
      | none =>
        rw [latest?_eq_none.1 before] at mem
        contradiction
      | some b =>
        rw [before, Option.all_some, TariffRate.supersedes_iff] at unsurpassed
        exact TariffRate.not_before_trans unsurpassed ((ih before).not_before mem)
    · next surpassed =>
      rw [best, Option.all_some, TariffRate.supersedes_iff, not_not] at surpassed
      obtain ⟨before, after, rfl, earlier, later⟩ := ih best
      refine ⟨before, after ++ [last], by simp, earlier, ?_⟩
      intro r mem
      rcases List.mem_append.1 mem with mem | mem
      · exact later r mem
      · rwa [List.mem_singleton.1 mem]

/-- Of the rows that tie with it the latest is the last. -/
theorem Latest.getLast?_ties (latest : Latest rows row) :
    (rows.filter fun r => r.Ties row).getLast? = some row := by
  obtain ⟨before, after, rfl, -, later⟩ := latest
  have none_ : after.filter (fun r => r.Ties row) = [] := by
    rw [List.filter_eq_nil_iff]
    intro r mem
    simpa using (later r mem).not_ties
  rw [List.filter_append, List.filter_cons_of_pos (by simpa using TariffRate.Ties.refl row), none_,
    List.getLast?_concat]

/-- The latest row is the same in two lists of the same rows where those that tie stand in the
same order. -/
theorem Latest.eq_of_ties {row' : TariffRate} (shared : ∀ r, r ∈ rows ↔ r ∈ others)
    (same : ∀ row ∈ rows, (rows.filter fun r => r.Ties row) = others.filter fun r => r.Ties row)
    (latest : Latest rows row) (latest' : Latest others row') : row = row' := by
  have mem' : row' ∈ rows := (shared row').2 latest'.mem
  have tie : row.Ties row' := by
    have greatest := latest.not_before mem'
    have greatest' := latest'.not_before ((shared row).1 latest.mem)
    rcases TariffRate.before_or_ties_or_before row row' with less | tie | less
    · exact absurd less greatest
    · exact tie
    · exact absurd less greatest'
  have last := latest.getLast?_ties
  simp only [tie.iff_of_ties, same row' mem', latest'.getLast?_ties] at last
  exact (Option.some.inj last).symm

theorem latest?_eq_some : latest? rows = some row ↔ Latest rows row := by
  constructor
  · exact latest_of_latest?
  · intro latest
    cases best : latest? rows with
    | none =>
      have mem := latest.mem
      rw [latest?_eq_none.1 best] at mem
      contradiction
    | some row' =>
      rw [(latest_of_latest? best).eq_of_ties (fun _ => .rfl) (fun _ _ => rfl) latest]

theorem latest?_congr (perm : others.Perm rows)
    (same : ∀ row ∈ rows, (others.filter fun r => r.Ties row) = rows.filter fun r => r.Ties row) :
    latest? others = latest? rows := by
  cases best : latest? rows with
  | none =>
    rw [latest?_eq_none] at best ⊢
    rwa [best, List.perm_nil] at perm
  | some row =>
    cases best' : latest? others with
    | none =>
      rw [latest?_eq_none] at best'
      rw [best', List.nil_perm] at perm
      simp [perm, latest?] at best
    | some row' =>
      refine congrArg some (Eq.symm ?_)
      exact (latest_of_latest? best).eq_of_ties (fun _ => perm.mem_iff.symm)
        (fun row mem => (same row mem).symm) (latest_of_latest? best')

/-- Of the rows that cover the question this one decides: no other is later, and of those that
came into effect at once with it, it is the last. -/
def Decides (rows : List TariffRate) (code : String) (weight : Pounds) (date : Date)
    (miles : Option Miles) (row : TariffRate) : Prop :=
  ∃ before after, rows = before ++ row :: after ∧ row.Covers code weight date miles ∧
    (∀ r ∈ before, r.Covers code weight date miles → ¬ row.Before r) ∧
    ∀ r ∈ after, r.Covers code weight date miles → r.Before row

variable {code : String} {weight : Pounds} {date : Date} {miles : Option Miles}

theorem decides_iff : Decides rows code weight date miles row ↔
    Latest (rows.filter fun r => r.Covers code weight date miles) row := by
  constructor
  · rintro ⟨before, after, rfl, covers, earlier, later⟩
    refine ⟨before.filter fun r => r.Covers code weight date miles,
      after.filter fun r => r.Covers code weight date miles, ?_, ?_, ?_⟩
    · rw [List.filter_append, List.filter_cons_of_pos (by simpa using covers)]
    · simpa using earlier
    · simpa using later
  · rintro ⟨before, after, split, earlier, later⟩
    obtain ⟨front, back, rfl, rfl, rest⟩ := List.filter_eq_append_iff.1 split
    obtain ⟨skipped, tail, rfl, none_, covers, rfl⟩ := List.filter_eq_cons_iff.1 rest
    refine ⟨front ++ skipped, tail, by simp, by simpa using covers, ?_, by simpa using later⟩
    intro r mem covers
    rcases List.mem_append.1 mem with mem | mem
    · exact earlier r (by simpa using ⟨mem, covers⟩)
    · exact absurd covers (by simpa using none_ r mem)

variable {data other : ReferenceData} {t t' : RateTable} {rate : Millicents}

/-- The rows under the code that apply are those of all rows that cover the question. -/
theorem rate_eq (accepted : ofReference data = .ok t) : t.rate code weight date miles =
    (latest? (data.rates.filter fun r => r.Covers code weight date miles)).elim
      (.error (.noApplicableRate code weight date miles)) fun r => .ok r.rate := by
  obtain ⟨-, rfl⟩ := ofReference_eq_ok.1 accepted
  have scanned : (data.rates.filter (·.code = code)).filter (·.applies code weight date miles) =
      data.rates.filter fun r => r.Covers code weight date miles := by
    rw [List.filter_filter]
    refine List.filter_congr ?_
    intro row _
    rw [Bool.eq_iff_iff, Bool.and_eq_true, TariffRate.applies_iff, decide_eq_true_eq,
      decide_eq_true_eq]
    exact and_iff_left_of_imp (·.code)
  rw [RateTable.rate, ReferenceData.get?_rateIndex, scanned]
  cases latest? (data.rates.filter fun r => r.Covers code weight date miles) <;> rfl

theorem rate_eq_ok (accepted : ofReference data = .ok t) :
    t.rate code weight date miles = .ok rate ↔
      ∃ row, Decides data.rates code weight date miles row ∧ row.rate = rate := by
  simp only [decides_iff, ← latest?_eq_some, rate_eq accepted]
  cases latest? (data.rates.filter fun r => r.Covers code weight date miles) <;> simp

theorem rate_eq_error (accepted : ofReference data = .ok t) {e : Error} :
    t.rate code weight date miles = .error e ↔ e = .noApplicableRate code weight date miles ∧
      ∀ row ∈ data.rates, ¬ row.Covers code weight date miles := by
  have none_ : (∀ row ∈ data.rates, ¬ row.Covers code weight date miles) ↔
      latest? (data.rates.filter fun r => r.Covers code weight date miles) = none := by
    rw [latest?_eq_none, List.filter_eq_nil_iff]
    simp
  rw [none_, rate_eq accepted]
  cases latest? (data.rates.filter fun r => r.Covers code weight date miles) <;> simp [eq_comm]

theorem rate_nonneg (accepted : ofReference data = .ok t)
    (found : t.rate code weight date miles = .ok rate) : 0 ≤ rate.val := by
  obtain ⟨row, ⟨before, after, rows, -⟩, rfl⟩ := (rate_eq_ok accepted).1 found
  have sound := ReferenceData.isEmpty_validate.1 (ofReference_eq_ok.1 accepted).1
  exact (sound.rows row (by simp [rows])).rate

/-- An indexed lookup is a scan of all reference rows. Without a row that covers the question there
is no rate, else the row that decides has it, and it is not negative. It stays the same while rows
that cover the question and tie keep their order, and whatever other rows there are. -/
theorem rate_scans (accepted : ofReference data = .ok t) (code : String) (weight : Pounds)
    (date : Date) (miles : Option Miles) :
    (∀ e, t.rate code weight date miles = .error e ↔
      e = .noApplicableRate code weight date miles ∧
        ∀ row ∈ data.rates, ¬ row.Covers code weight date miles) ∧
    (∀ rate, t.rate code weight date miles = .ok rate ↔
      ∃ row, Decides data.rates code weight date miles row ∧ row.rate = rate) ∧
    (∀ rate, t.rate code weight date miles = .ok rate → 0 ≤ rate.val) ∧
    (∀ other t', ofReference other = .ok t' → other.rates.Perm data.rates →
      (∀ row ∈ data.rates, row.Covers code weight date miles →
        (other.rates.filter fun r => r.Covers code weight date miles ∧ r.Ties row) =
          data.rates.filter fun r => r.Covers code weight date miles ∧ r.Ties row) →
      t'.rate code weight date miles = t.rate code weight date miles) ∧
    ∀ other t', ofReference other = .ok t' →
      (other.rates.filter fun r => r.Covers code weight date miles) =
        (data.rates.filter fun r => r.Covers code weight date miles) →
      t'.rate code weight date miles = t.rate code weight date miles := by
  refine ⟨fun e => rate_eq_error accepted, fun rate => rate_eq_ok accepted,
    fun rate => rate_nonneg accepted, ?_, ?_⟩
  · intro other t' accepted' perm same
    have latest : latest? (other.rates.filter fun r => r.Covers code weight date miles) =
        latest? (data.rates.filter fun r => r.Covers code weight date miles) := by
      refine latest?_congr (perm.filter _) ?_
      intro row mem
      obtain ⟨mem, covers⟩ : row ∈ data.rates ∧ row.Covers code weight date miles := by
        simpa using mem
      simpa [List.filter_filter, Bool.and_comm] using same row mem covers
    rw [rate_eq accepted', rate_eq accepted, latest]
  · intro other t' accepted' same
    rw [rate_eq accepted', rate_eq accepted, same]

/-- Of two rows from one day and weight the last decides, and one that is not in effect yet changes
nothing. When all have run out there is no rate. -/
theorem rate_scans_sample :
    let row := Sample.tariffRate "LHS"
    let revised := { row with rate := ⟨250000⟩ }
    let announced := { row with dateLower := Sample.day 19500 }
    let data : ReferenceData :=
      { tariffItems := [Sample.tariffItem "LHS" false .weightDistance], rates := [row, revised] }
    let other := { data with rates := announced :: data.rates }
    ∃ t t', ofReference data = .ok t ∧ ofReference other = .ok t' ∧
      Decides data.rates "LHS" ⟨4000⟩ (Sample.day 19000) (some 100) revised ∧
      t.rate "LHS" ⟨4000⟩ (Sample.day 19000) (some 100) = .ok ⟨250000⟩ ∧
      t'.rate "LHS" ⟨4000⟩ (Sample.day 19000) (some 100) =
        t.rate "LHS" ⟨4000⟩ (Sample.day 19000) (some 100) ∧
      t.rate "LHS" ⟨4000⟩ (Sample.day 20000) (some 100) =
        .error (.noApplicableRate "LHS" ⟨4000⟩ (Sample.day 20000) (some 100)) := by
  intro row revised announced data other
  obtain ⟨t, accepted⟩ : ∃ t, ofReference data = .ok t :=
    ⟨_, ofReference_eq_ok.2 ⟨by decide +kernel, rfl⟩⟩
  obtain ⟨t', accepted'⟩ : ∃ t', ofReference other = .ok t' :=
    ⟨_, ofReference_eq_ok.2 ⟨by decide +kernel, rfl⟩⟩
  have covers : revised.Covers "LHS" ⟨4000⟩ (Sample.day 19000) (some 100) := by decide
  have decides : Decides data.rates "LHS" ⟨4000⟩ (Sample.day 19000) (some 100) revised := by
    refine ⟨[row], [], rfl, covers, ?_, by simp⟩
    intro r mem _
    rw [List.mem_singleton.1 mem]
    exact fun before => before.not_ties ⟨rfl, rfl⟩
  obtain ⟨-, found, -, -, same⟩ :=
    rate_scans accepted "LHS" ⟨4000⟩ (Sample.day 19000) (some 100)
  obtain ⟨missing, -⟩ := rate_scans accepted "LHS" ⟨4000⟩ (Sample.day 20000) (some 100)
  refine ⟨t, t', accepted, accepted', decides, (found _).2 ⟨revised, decides, rfl⟩,
    same other t' accepted' (by decide +kernel), (missing _).2 ⟨rfl, by decide⟩⟩

end RateTable
end Haulage
