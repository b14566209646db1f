import Haulage.Proofs.Assignment
import Haulage.Proofs.Decimal.Nearest
import Haulage.Proofs.Sample

/-! Which performance of a grouping a selection comes to. Offers, score and id put performances
into a strict order, so that of those that may be chosen one goes before all others. It is the
same one in whatever order the store lists them. -/
namespace Haulage

namespace CarrierPerformance
variable {p q r : CarrierPerformance}

/-- Fewer offers; with as many offers the greater score, by its number; with the same score
too the lower id. -/
def Outranks (p q : CarrierPerformance) : Prop :=
  p.offerCount < q.offerCount ∨ p.offerCount = q.offerCount ∧
    (q.bestValueScore.toRat < p.bestValueScore.toRat ∨
      q.bestValueScore.toRat = p.bestValueScore.toRat ∧ compare p.id q.id = .lt)

/-- The performance period contains the book date and the rate cycle the pickup date, each with
both its ends. -/
structure Covers (p : CarrierPerformance) (bookDate pickupDate : Date) : Prop where
  period : p.periodStart ≤ bookDate ∧ bookDate ≤ p.periodEnd
  cycle : p.cycleStart ≤ pickupDate ∧ pickupDate ≤ p.cycleEnd

theorem covers_iff {bookDate pickupDate : Date} :
    p.covers bookDate pickupDate = true ↔ p.Covers bookDate pickupDate := by
  simp only [covers, Bool.and_eq_true, decide_eq_true_eq]
  exact ⟨fun ⟨⟨⟨from_, to_⟩, start⟩, stop⟩ => ⟨⟨from_, to_⟩, ⟨start, stop⟩⟩,
    fun ⟨⟨from_, to_⟩, ⟨start, stop⟩⟩ => ⟨⟨⟨from_, to_⟩, start⟩, stop⟩⟩

theorem comparePerformances_eq_lt : comparePerformances p q = .lt ↔ p.Outranks q := by
  simp only [comparePerformances, Ordering.then_eq_lt, Nat.compare_eq_lt, compare_eq_iff_eq,
    Decimal.cmp_eq_lt, Decimal.cmp_eq_eq, Outranks, UInt32.lt_iff_toNat_lt, UInt32.toNat_inj]

theorem Outranks.irrefl (p : CarrierPerformance) : ¬ p.Outranks p := by
  rintro (fewer | ⟨-, better | ⟨-, lower⟩⟩)
  · exact UInt32.lt_irrefl _ fewer
  · exact lt_irrefl _ better
  · simp at lower

theorem Outranks.trans (first : p.Outranks q) (second : q.Outranks r) : p.Outranks r := by
  rcases first with fewer | ⟨offers, rest⟩
  · rcases second with fewer' | ⟨offers', -⟩
    · exact .inl (UInt32.lt_trans fewer fewer')
    · exact .inl (offers' ▸ fewer)
  · rcases second with fewer' | ⟨offers', rest'⟩
    · exact .inl (offers ▸ fewer')
    · refine .inr ⟨offers.trans offers', ?_⟩
      rcases rest with better | ⟨score, lower⟩ <;> rcases rest' with better' | ⟨score', lower'⟩
      · exact .inl (better'.trans better)
      · exact .inl (score' ▸ better)
      · exact .inl (score ▸ better')
      · exact .inr ⟨score'.trans score, Std.TransCmp.lt_trans lower lower'⟩

/-- Of two performances with different ids one goes before the other. -/
theorem outranks_or_outranks (other : p.id ≠ q.id) : p.Outranks q ∨ q.Outranks p := by
  by_cases offers : p.offerCount = q.offerCount
  · rcases lt_trichotomy q.bestValueScore.toRat p.bestValueScore.toRat with better | score | better
    · exact .inl (.inr ⟨offers, .inl better⟩)
    · cases order : compare p.id q.id with
      | lt => exact .inl (.inr ⟨offers, .inr ⟨score, order⟩⟩)
      | eq => exact absurd (Std.LawfulEqCmp.eq_of_compare order) other
      | gt => exact .inr (.inr ⟨offers.symm, .inr ⟨score.symm, Std.OrientedCmp.lt_of_gt order⟩⟩)
    · exact .inr (.inr ⟨offers.symm, .inl better⟩)
  · exact (UInt32.lt_or_lt_of_ne offers).imp .inl .inl

end CarrierPerformance

section Best
variable {ps others : List CarrierPerformance} {p : CarrierPerformance}

theorem best?_concat : best? (ps ++ [p]) =
    if (best? ps).all (comparePerformances p · = .lt) then some p else best? ps := by
  rw [best?, List.foldl_append]
  rfl

theorem best?_eq_none : best? ps = none ↔ ps = [] := by
  induction ps using List.reverseRecOn with
  | nil => simp [best?]
  | append_singleton ps p ih =>
    rw [best?_concat]
    cases best : best? ps with
    | none => simp
    | some b => by_cases comparePerformances p b = .lt <;> simp [*]

theorem not_outranks_of_best? (best : best? ps = some p) : ∀ q ∈ ps, ¬ q.Outranks p := by
  -- From the end, as the last performance is compared with the best of those before it.
  induction ps using List.reverseRecOn generalizing p with
  | nil => simp
  | append_singleton ps last ih =>
    rw [best?_concat] at best
    intro q mem
    split at best
    · next first =>
      obtain rfl := Option.some.inj best
      rcases List.mem_append.1 mem with mem | mem
      · cases before : best? ps with
        | none =>
          rw [best?_eq_none.1 before] at mem
          contradiction
        | some b =>
          rw [before, Option.all_some, decide_eq_true_eq,
            CarrierPerformance.comparePerformances_eq_lt] at first
          exact fun outranks => ih before q mem (outranks.trans first)
      · rw [List.mem_singleton.1 mem]
        exact CarrierPerformance.Outranks.irrefl last
    · next second =>
      rw [best, Option.all_some, decide_eq_true_eq,
        CarrierPerformance.comparePerformances_eq_lt] at second
      rcases List.mem_append.1 mem with mem | mem
      · exact ih best q mem
      · rwa [List.mem_singleton.1 mem]

/-- Of performances with ids of their own the best is the one that goes before all others. -/
theorem best?_eq_some (distinct : (ps.map CarrierPerformance.id).Nodup) :
    best? ps = some p ↔ p ∈ ps ∧ ∀ q ∈ ps, q ≠ p → p.Outranks q := by
  constructor
  · intro best
    refine ⟨mem_of_best? best, fun q mem other => ?_⟩
    have apart : p.id ≠ q.id := fun same =>
      other (List.inj_on_of_nodup_map distinct mem (mem_of_best? best) same.symm)
    exact (CarrierPerformance.outranks_or_outranks apart).resolve_right
      (not_outranks_of_best? best q mem)
  · rintro ⟨mem, first⟩
    cases best : best? ps with
    | none =>
      rw [best?_eq_none.1 best] at mem
      contradiction
    | some b =>
      by_contra other
      have outranks := first b (mem_of_best? best) (fun same => other (congrArg some same))
      exact not_outranks_of_best? best p mem outranks

theorem best?_perm (distinct : (ps.map CarrierPerformance.id).Nodup) (perm : others.Perm ps) :
    best? others = best? ps := by
  have distinct' : (others.map CarrierPerformance.id).Nodup := (perm.map _).nodup_iff.2 distinct
  ext p
  rw [best?_eq_some distinct, best?_eq_some distinct', perm.mem_iff]
  simp only [perm.mem_iff]

end Best

/-- The choice does not depend on the order of the candidates. -/
theorem selectBest?_perm {candidates others : List PerformanceCandidate} {id : GroupingId}
    {bookDate pickupDate : Date}
    (distinct : (candidates.map fun c => c.performance.id).Nodup) (perm : others.Perm candidates) :
    selectBest? others id bookDate pickupDate = selectBest? candidates id bookDate pickupDate := by
  refine best?_perm ?_ ((perm.filter _).map _)
  rw [List.map_map]
  exact distinct.sublist (List.filter_sublist.map _)

namespace Store
variable {s s' : Store} {id : GroupingId} {key : GroupingKey} {bookDate pickupDate : Date}
  {p q : CarrierPerformance} {g : Grouping}

/-- A stored performance of the grouping that may be chosen for the dates. -/
structure Eligible (s : Store) (id : GroupingId) (bookDate pickupDate : Date)
    (p : CarrierPerformance) : Prop where
  stored : s.performances.get? p.id = some p
  grouping : p.groupingId = id
  covers : p.Covers bookDate pickupDate
  enrolled : ∃ carrier, s.carriers.get? p.carrierId = some carrier ∧ carrier.enrolled = true

/-- Of the performances that may be chosen this one goes before all others. -/
structure Awards (s : Store) (id : GroupingId) (bookDate pickupDate : Date)
    (p : CarrierPerformance) : Prop where
  eligible : s.Eligible id bookDate pickupDate p
  first : ∀ q, s.Eligible id bookDate pickupDate q → q ≠ p → p.Outranks q

/-- The grouping stands under the key. -/
def KeepsUnder (s : Store) (key : GroupingKey) (g : Grouping) : Prop :=
  s.groupingIndex.get? key = some g.id ∧ s.groupings.get? g.id = some g

theorem Filed.groupingByKey?_eq_some (filed : s.Filed) :
    s.groupingByKey? key = some g ↔ s.KeepsUnder key g := by
  rw [groupingByKey?, Option.bind_eq_some_iff, KeepsUnder]
  constructor
  · rintro ⟨id, named, stored⟩
    obtain rfl : g.id = id := filed.groupings stored
    exact ⟨named, stored⟩
  · rintro ⟨named, stored⟩
    exact ⟨g.id, named, stored⟩

/-- The performances that a selection for the grouping compares. -/
def contenders (s : Store) (id : GroupingId) (bookDate pickupDate : Date) :
    List CarrierPerformance :=
  ((s.candidatesFor id).filter (·.isEligible id bookDate pickupDate)).map (·.performance)

theorem Filed.mem_contenders (filed : s.Filed) :
    p ∈ s.contenders id bookDate pickupDate ↔ s.Eligible id bookDate pickupDate p := by
  simp only [contenders, candidatesFor, List.mem_map, List.mem_filter, decide_eq_true_eq,
    filed.performances.mem_values_iff, PerformanceCandidate.isEligible, Bool.and_eq_true]
  constructor
  · rintro ⟨_, ⟨⟨p, ⟨stored, _⟩, rfl⟩, ⟨enrolled, grouping⟩, covers⟩, rfl⟩
    exact ⟨stored, grouping, CarrierPerformance.covers_iff.1 covers,
      (Option.any_eq_true _ _).1 enrolled⟩
  · rintro ⟨stored, grouping, covers, enrolled⟩
    exact ⟨_, ⟨⟨p, ⟨stored, grouping⟩, rfl⟩, ⟨(Option.any_eq_true _ _).2 enrolled, grouping⟩,
      CarrierPerformance.covers_iff.2 covers⟩, rfl⟩

theorem Filed.nodup_contenders (filed : s.Filed) :
    ((s.contenders id bookDate pickupDate).map CarrierPerformance.id).Nodup := by
  have candidates : (s.candidatesFor id).map (·.performance) =
      s.performances.values.filter (·.groupingId = id) := by
    rw [candidatesFor, List.map_map]
    exact List.map_id _
  have distinct : ((s.candidatesFor id).map (·.performance.id)).Nodup := by
    show ((s.candidatesFor id).map (CarrierPerformance.id ∘ (·.performance))).Nodup
    rw [← List.map_map, candidates]
    exact filed.performances.nodup_keys.sublist (List.filter_sublist.map _)
  rw [contenders, List.map_map]
  exact distinct.sublist (List.filter_sublist.map _)

theorem Filed.selectForGrouping_eq_ok (filed : s.Filed) :
    s.selectForGrouping id bookDate pickupDate = .ok p ↔ s.Awards id bookDate pickupDate p := by
  have best : s.selectForGrouping id bookDate pickupDate = .ok p ↔
      best? (s.contenders id bookDate pickupDate) = some p := require_eq_ok
  rw [best, best?_eq_some filed.nodup_contenders]
  simp only [filed.mem_contenders]
  exact ⟨fun ⟨eligible, first⟩ => ⟨eligible, first⟩, fun awards => ⟨awards.eligible, awards.first⟩⟩

/-- A selection fails for want of a performance, and for nothing else. -/
theorem Filed.selectForGrouping_eq_error (filed : s.Filed) {e : Error} :
    s.selectForGrouping id bookDate pickupDate = .error e ↔
      (∀ p, ¬ s.Eligible id bookDate pickupDate p) ∧
        e = .notFound .performance s!"grouping {id} book {bookDate} pickup {pickupDate}" := by
  have none_ : best? (s.contenders id bookDate pickupDate) = none ↔
      ∀ p, ¬ s.Eligible id bookDate pickupDate p := by
    simp only [best?_eq_none, List.eq_nil_iff_forall_not_mem, filed.mem_contenders]
  rw [← none_]
  exact require_eq_error

/-- A selection for a key gives the performance that goes before all others of the grouping
that stands under the key. It fails if there is no such grouping or no performance of it may be
chosen, and says which. In whatever order candidates are listed, the same one is chosen. -/
theorem selectCarrier_best (filed : s.Filed) (key : GroupingKey) (bookDate pickupDate : Date) :
    (∀ p, s.selectCarrier key bookDate pickupDate = .ok p ↔
      ∃ g, s.KeepsUnder key g ∧ s.Awards g.id bookDate pickupDate p) ∧
    (∀ e, s.selectCarrier key bookDate pickupDate = .error e ↔
      ((∀ g, ¬ s.KeepsUnder key g) ∧ e = .notFound .grouping (toString key)) ∨
      ∃ g, s.KeepsUnder key g ∧ (∀ p, ¬ s.Eligible g.id bookDate pickupDate p) ∧
        e = .notFound .performance s!"grouping {g.id} book {bookDate} pickup {pickupDate}") ∧
    ∀ candidates others : List PerformanceCandidate,
      (candidates.map fun c => c.performance.id).Nodup → others.Perm candidates →
      ∀ id, selectBest? others id bookDate pickupDate =
        selectBest? candidates id bookDate pickupDate := by
  refine ⟨fun p => ?_, fun e => ?_, fun _ _ distinct perm _ => selectBest?_perm distinct perm⟩
  · simp only [selectCarrier, bind_eq_ok, require_eq_ok, filed.groupingByKey?_eq_some,
      filed.selectForGrouping_eq_ok]
  · simp only [selectCarrier, bind_eq_error, require_eq_ok, require_eq_error,
      Option.eq_none_iff_forall_ne_some, ne_eq, filed.groupingByKey?_eq_some,
      filed.selectForGrouping_eq_error]

/-- Four performances with as many offers. One has no carrier on record and one has expired the
day before; of the two that are left, which write one score in two ways, the lower id counts. -/
theorem selectCarrier_best_sample :
    let alike := { Sample.performance with id := Sample.id 2, bestValueScore := .scaled 10 1 }
    let unknown := { alike with
      id := Sample.id 3, carrierId := Sample.id 9, bestValueScore := .scaled 2 0 }
    let expired := { alike with id := Sample.id 4, periodEnd := Sample.day 18999 }
    let key : GroupingKey := ⟨"US87", "REGION 1", "D"⟩
    ∃ s : Store, s.Filed ∧ s.performances.values = [Sample.performance, alike, unknown, expired] ∧
      s.selectCarrier key (Sample.day 19000) (Sample.day 19010) = .ok Sample.performance ∧
      (∃ g, s.KeepsUnder key g ∧
        s.Awards g.id (Sample.day 19000) (Sample.day 19010) Sample.performance) ∧
      selectBest? (s.candidatesFor (Sample.id 1)).reverse (Sample.id 1) (Sample.day 19000)
        (Sample.day 19010) = some Sample.performance := by
  intro alike unknown expired key
  let records := { Sample.records with
    performances := [expired, unknown, alike, Sample.performance] }
  let s := (ofRecords records).toOption.getD default
  have filed : s.Filed := filed_ofRecords (r := records) (by rfl)
  obtain ⟨awarded, -, anyOrder⟩ :=
    selectCarrier_best filed key (Sample.day 19000) (Sample.day 19010)
  have chosen : s.selectCarrier key (Sample.day 19000) (Sample.day 19010) =
      .ok Sample.performance := toOption_eq_some.1 (by decide +kernel)
  refine ⟨s, filed, by decide +kernel, chosen, (awarded _).1 chosen, ?_⟩
  rw [anyOrder (s.candidatesFor (Sample.id 1)) _ (by decide +kernel) (List.reverse_perm _)]
  decide +kernel

end Store
end Haulage
