import Haulage.Proofs.Groupings.Index
import Haulage.Proofs.Sample
import Mathlib.Data.Fin.VecNotation
import Mathlib.Logic.Function.Basic

/-! Callers that want groupings of one store at the same time. Between two steps of a caller the
others may take any of theirs, so a caller that found nothing may be too late to insert. The
invariant says what the store owes a caller at each point: that its own id is still unused as
long as it may insert, and a grouping of its key from then on. So all callers of one key end
with one grouping. -/
namespace Haulage

/-- What a caller wants a grouping of, and the id that it would give a new one. -/
structure GroupingRequest where
  key : GroupingKey
  fresh : GroupingId

/-- Callers at one store, each as far as it is. -/
structure GroupingRace (ι : Type) where
  store : Store
  progress : ι → GroupingFetch

namespace GroupingFetch

/-- How many steps a caller takes at most until it is done. -/
def stepsLeft : GroupingFetch → Nat
  | start => 3
  | missed => 2
  | taken => 1
  | done _ => 0

theorem outcome_eq_ok {p : GroupingFetch} {key : GroupingKey} {g : Grouping} :
    p.outcome key = .ok g ↔ p = done (.ok g) := by
  cases p <;> simp [outcome]

/-- What the store owes a caller that is so far. -/
def Supported (request : GroupingRequest) (s : Store) : GroupingFetch → Prop
  | start | missed => s.groupings.get? request.fresh = none
  | taken => ∃ g, s.groupingByKey? request.key = some g
  | done outcome => ∃ g, outcome = .ok g ∧ s.groupingByKey? request.key = some g

variable {s s' : Store} {request other : GroupingRequest} {p : GroupingFetch}

theorem stepsLeft_step (key : GroupingKey) (fresh : GroupingId) :
    (p.step Store.groupingShelf key fresh s).1.stepsLeft ≤ p.stepsLeft - 1 := by
  cases p with
  | start =>
    simp only [step, Store.groupingShelf]
    cases s.groupingByKey? key <;> simp [stepsLeft]
  | missed =>
    simp only [step, Store.groupingShelf]
    cases s.insertGrouping ⟨fresh, key⟩ with
    | ok s' => simp [stepsLeft]
    | error e => cases conflict : e.isConflict <;> simp [stepsLeft, conflict]
  | taken => simp [step, stepsLeft]
  | done outcome => simp [step, stepsLeft]

/-- The only step that writes is the insertion of a caller that found nothing. -/
theorem store_of_step (p : GroupingFetch) (request : GroupingRequest) (s : Store) :
    (p.step Store.groupingShelf request.key request.fresh s).2 = s ∨
      p = missed ∧ s.insertGrouping ⟨request.fresh, request.key⟩ =
        .ok (p.step Store.groupingShelf request.key request.fresh s).2 := by
  cases p with
  | start =>
    simp only [step, Store.groupingShelf]
    cases s.groupingByKey? request.key <;> exact .inl rfl
  | missed =>
    simp only [step, Store.groupingShelf]
    cases s.insertGrouping ⟨request.fresh, request.key⟩ with
    | ok s' => exact .inr ⟨trivial, rfl⟩
    | error e => exact .inl rfl
  | taken => exact .inl rfl
  | done outcome => exact .inl rfl

/-- A caller's step leaves it at a point where the store owes it no more than it has. -/
theorem Supported.step (supported : Supported request s p) (indexed : s.Indexed)
    (filed : s.groupings.FiledBy Grouping.id) :
    Supported request (p.step Store.groupingShelf request.key request.fresh s).2
      (p.step Store.groupingShelf request.key request.fresh s).1 := by
  cases p with
  | start =>
    simp only [GroupingFetch.step, Store.groupingShelf]
    cases found : s.groupingByKey? request.key with
    | none => exact supported
    | some g => exact ⟨g, rfl, found⟩
  | missed =>
    have unused : s.groupings.get? request.fresh = none := supported
    simp only [GroupingFetch.step, Store.groupingShelf]
    cases inserted : s.insertGrouping ⟨request.fresh, request.key⟩ with
    | ok s' => exact ⟨_, rfl, indexed.groupingByKey?_inserted filed unused inserted⟩
    | error e =>
      obtain ⟨conflict, id, named⟩ := Store.insertGrouping_eq_error inserted
      simp only [conflict, if_true]
      exact indexed.exists_groupingByKey? named
  | taken =>
    obtain ⟨g, found⟩ := supported
    simp only [GroupingFetch.step, Store.groupingShelf, found, require]
    exact ⟨g, rfl, found⟩
  | done outcome => exact supported

/-- The insertion of another caller, under an id of its own, takes nothing away. -/
theorem Supported.mono (supported : Supported request s p) (indexed : s.Indexed)
    (filed : s.groupings.FiledBy Grouping.id) (apart : request.fresh ≠ other.fresh)
    (unused : s.groupings.get? other.fresh = none)
    (inserted : s.insertGrouping ⟨other.fresh, other.key⟩ = .ok s') : Supported request s' p := by
  have found' {g : Grouping} (found : s.groupingByKey? request.key = some g) :
      s'.groupingByKey? request.key = some g :=
    indexed.groupingByKey?_mono filed unused inserted found
  cases p with
  | start | missed =>
    have unused' : s.groupings.get? request.fresh = none := supported
    rw [Supported, Store.get?_insertGrouping inserted, if_neg apart, unused']
  | taken =>
    obtain ⟨g, found⟩ := supported
    exact ⟨g, found' found⟩
  | done outcome =>
    obtain ⟨g, done, found⟩ := supported
    exact ⟨g, done, found' found⟩

end GroupingFetch

namespace GroupingRace
variable {ι : Type} [DecidableEq ι] {requests : ι → GroupingRequest} {race : GroupingRace ι}
  {s : Store}

/-- No caller has begun. -/
def ofStore (s : Store) : GroupingRace ι := ⟨s, fun _ => .start⟩

/-- One caller takes a step, the others stay where they are. -/
def step (requests : ι → GroupingRequest) (race : GroupingRace ι) (i : ι) : GroupingRace ι :=
  let (p, s) := (race.progress i).step Store.groupingShelf (requests i).key (requests i).fresh
    race.store
  ⟨s, Function.update race.progress i p⟩

/-- Callers take steps in the order of a schedule. -/
def run (requests : ι → GroupingRequest) (race : GroupingRace ι) (schedule : List ι) :
    GroupingRace ι :=
  schedule.foldl (step requests) race

/-- What every step keeps, `s` being the store in which the callers began. -/
structure Converges (requests : ι → GroupingRequest) (s : Store) (race : GroupingRace ι) :
    Prop where
  filed : race.store.groupings.FiledBy Grouping.id
  indexed : race.store.Indexed
  supported : ∀ i, (race.progress i).Supported (requests i) race.store
  kept : ∀ ⦃id g⦄, s.groupings.get? id = some g → race.store.groupings.get? id = some g

/-- Every caller has an id of its own. -/
def Apart (requests : ι → GroupingRequest) : Prop :=
  ∀ i j, (requests i).fresh = (requests j).fresh → i = j

theorem Converges.step (converges : race.Converges requests s) (apart : Apart requests) (i : ι) :
    (race.step requests i).Converges requests s := by
  have own := (converges.supported i).step converges.indexed converges.filed
  have written := (race.progress i).store_of_step (requests i) race.store
  unfold GroupingRace.step
  generalize (race.progress i).step Store.groupingShelf (requests i).key (requests i).fresh
    race.store = result at own written
  obtain ⟨p, s'⟩ := result
  have others (there : ∀ j ≠ i, (race.progress j).Supported (requests j) s') (j : ι) :
      (Function.update race.progress i p j).Supported (requests j) s' := by
    by_cases same : j = i
    · subst same
      rwa [Function.update_self]
    · rw [Function.update_of_ne same]
      exact there j same
  rcases written with rfl | ⟨missed, inserted⟩
  · exact { converges with supported := others fun j _ => converges.supported j }
  · have unused : race.store.groupings.get? (requests i).fresh = none := by
      have := converges.supported i
      rwa [missed] at this
    have indexed' := converges.indexed.insertGrouping unused inserted
    have there : ∀ j ≠ i, (race.progress j).Supported (requests j) s' := fun j other =>
      (converges.supported j).mono converges.indexed converges.filed
        (fun same => other (apart j i same)) unused inserted
    refine ⟨Store.filedBy_insertGrouping converges.filed inserted, indexed', others there,
      fun id g stood => ?_⟩
    have stored := converges.kept stood
    rw [Store.get?_insertGrouping inserted, if_neg, stored]
    rintro rfl
    rw [unused] at stored
    contradiction

theorem Converges.run (converges : race.Converges requests s) (apart : Apart requests)
    (schedule : List ι) : (race.run requests schedule).Converges requests s := by
  induction schedule generalizing race with
  | nil => exact converges
  | cons i rest ih => exact ih (converges.step apart i)

/-- Each step of a caller brings it nearer to its end. -/
theorem stepsLeft_run (requests : ι → GroupingRequest) (race : GroupingRace ι)
    (schedule : List ι) (i : ι) :
    ((race.run requests schedule).progress i).stepsLeft ≤
      (race.progress i).stepsLeft - schedule.count i := by
  induction schedule generalizing race with
  | nil => simp [run]
  | cons j rest ih =>
    have later := ih (race.step requests j)
    have here : ((race.step requests j).progress i).stepsLeft ≤
        (race.progress i).stepsLeft - if j = i then 1 else 0 := by
      unfold GroupingRace.step
      by_cases same : j = i
      · subst same
        simpa using GroupingFetch.stepsLeft_step _ _
      · simp [Function.update_of_ne (Ne.symm same), same]
    rw [List.count_cons]
    simp only [beq_iff_eq]
    exact Nat.le_trans later (by omega)

/-- Callers with ids of their own may take their steps in any order. Each that ends has the
grouping that is stored under its key, callers of one key have one grouping, and no key has
two; the groupings that stood before stay. Three steps of its own are enough for a caller to
end. -/
theorem race_converges (filed : s.groupings.FiledBy Grouping.id) (indexed : s.Indexed)
    (apart : Apart requests) (unused : ∀ i, s.groupings.get? (requests i).fresh = none)
    (schedule : List ι) :
    let race := (ofStore s).run requests schedule
    (∀ i outcome, race.progress i = .done outcome → ∃ g, outcome = .ok g ∧
        g.key = (requests i).key ∧ race.store.groupings.get? g.id = some g ∧
        race.store.groupingByKey? (requests i).key = some g) ∧
      (∀ i j g g', race.progress i = .done (.ok g) → race.progress j = .done (.ok g') →
        (requests i).key = (requests j).key → g.id = g'.id) ∧
      (∀ id id' g g', race.store.groupings.get? id = some g →
        race.store.groupings.get? id' = some g' → g.key = g'.key → id = id') ∧
      (∀ id g, s.groupings.get? id = some g → race.store.groupings.get? id = some g) ∧
      ∀ i, 3 ≤ schedule.count i → ∃ outcome, race.progress i = .done outcome := by
  intro race
  have start : (ofStore s).Converges requests s := ⟨filed, indexed, unused, fun _ _ => id⟩
  have converges : race.Converges requests s := start.run apart schedule
  have ended (i : ι) (outcome : Except Error Grouping) (done : race.progress i = .done outcome) :
      ∃ g, outcome = .ok g ∧ race.store.groupingByKey? (requests i).key = some g := by
    have := converges.supported i
    rwa [done] at this
  refine ⟨?_, ?_, ?_, converges.kept, ?_⟩
  · intro i outcome done
    obtain ⟨g, rfl, found⟩ := ended i outcome done
    obtain ⟨stored, sameKey⟩ := (converges.indexed.groupingByKey?_eq_some converges.filed).1 found
    exact ⟨g, rfl, sameKey, stored, found⟩
  · intro i j g g' done done' sameKey
    obtain ⟨_, ⟨⟩, found⟩ := ended i _ done
    obtain ⟨_, ⟨⟩, found'⟩ := ended j _ done'
    rw [sameKey, found'] at found
    exact congrArg Grouping.id (Option.some.inj found).symm
  · intro id id' g g' stored stored' sameKey
    exact converges.indexed.eq_of_key_eq stored stored' sameKey
  · intro i enough
    have left := stepsLeft_run requests (ofStore s) schedule i
    cases progress : race.progress i with
    | done outcome => exact ⟨outcome, rfl⟩
    | start | missed | taken =>
      change (race.progress i).stepsLeft ≤ 3 - schedule.count i at left
      rw [progress] at left
      simp only [GroupingFetch.stepsLeft] at left
      omega

/-- Two callers want a grouping that is not there, and the second inserts while the first has
only looked; a third wants the grouping that stood before. -/
theorem race_converges_sample :
    let wanted : GroupingKey := ⟨"US88", "REGION 1", "D"⟩
    let requests : Fin 3 → GroupingRequest :=
      ![⟨wanted, Sample.id 11⟩, ⟨wanted, Sample.id 12⟩,
        ⟨⟨"US87", "REGION 1", "D"⟩, Sample.id 13⟩]
    let race := (ofStore Sample.store).run requests [0, 1, 2, 1, 0, 0, 1]
    Apart requests ∧ (∀ i, Sample.store.groupings.get? (requests i).fresh = none) ∧
      race.progress 0 = .done (.ok ⟨Sample.id 12, wanted⟩) ∧
      race.progress 2 = .done (.ok ⟨Sample.id 1, ⟨"US87", "REGION 1", "D"⟩⟩) ∧
      ∀ g, race.progress 1 = .done (.ok g) → g.id = Sample.id 12 := by
  intro wanted requests race
  have seeded : Store.ofRecords Sample.records = .ok Sample.store := rfl
  have apart : Apart requests := by
    unfold Apart
    decide +kernel
  have unused : ∀ i, Sample.store.groupings.get? (requests i).fresh = none := by decide +kernel
  have first : race.progress 0 = .done (.ok ⟨Sample.id 12, wanted⟩) :=
    GroupingFetch.outcome_eq_ok.1 (toOption_eq_some.1
      (show ((race.progress 0).outcome wanted).toOption = _ by decide +kernel))
  have third : race.progress 2 = .done (.ok ⟨Sample.id 1, ⟨"US87", "REGION 1", "D"⟩⟩) :=
    GroupingFetch.outcome_eq_ok.1 (toOption_eq_some.1
      (show ((race.progress 2).outcome wanted).toOption = _ by decide +kernel))
  obtain ⟨-, agree, -⟩ := race_converges Sample.filed_store.groupings
    (Store.indexed_ofRecords (by decide +kernel) seeded) apart unused [0, 1, 2, 1, 0, 0, 1]
  exact ⟨apart, unused, first, third, fun g done => agree 1 0 g _ done first rfl⟩

end GroupingRace
end Haulage
