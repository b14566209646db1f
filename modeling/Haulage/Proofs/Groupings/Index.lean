import Haulage.Proofs.Filing

/-! The index of groupings. In a coherent store it leads from the keys of the stored groupings,
and from no others, to their ids, so that a look-up by key finds the one grouping that has the
key. Insertions under unused ids keep it so. -/
namespace Haulage.Store

/-- The index names exactly the groupings that are stored. -/
def Indexed (s : Store) : Prop :=
  ∀ key id, s.groupingIndex.get? key = some id ↔
    (s.groupings.get? id).map Grouping.key = some key

variable {s s' : Store} {g g' : Grouping} {key : GroupingKey}

theorem indexed_empty : Store.empty.Indexed := by
  intro key id
  simp [Store.empty]

theorem Indexed.groupingByKey?_eq_some (indexed : s.Indexed)
    (filed : s.groupings.FiledBy Grouping.id) :
    s.groupingByKey? key = some g ↔ s.groupings.get? g.id = some g ∧ g.key = key := by
  simp only [groupingByKey?, Option.bind_eq_some_iff, indexed key]
  constructor
  · rintro ⟨id, named, stored⟩
    obtain rfl : g.id = id := filed stored
    rw [stored, Option.map_some, Option.some.injEq] at named
    exact ⟨stored, named⟩
  · rintro ⟨stored, rfl⟩
    exact ⟨g.id, by rw [stored, Option.map_some], stored⟩

/-- A key that the index names has a grouping. -/
theorem Indexed.exists_groupingByKey? (indexed : s.Indexed) {id : GroupingId}
    (named : s.groupingIndex.get? key = some id) : ∃ g, s.groupingByKey? key = some g := by
  obtain ⟨g, stored, -⟩ := Option.map_eq_some_iff.1 ((indexed key id).1 named)
  exact ⟨g, by rw [groupingByKey?, named, Option.bind_some, stored]⟩

/-- No two stored groupings have one key. -/
theorem Indexed.eq_of_key_eq (indexed : s.Indexed) {id id' : GroupingId}
    (stored : s.groupings.get? id = some g) (stored' : s.groupings.get? id' = some g')
    (same : g.key = g'.key) : id = id' := by
  have named : s.groupingIndex.get? g.key = some id :=
    (indexed _ _).2 (by rw [stored, Option.map_some])
  have named' : s.groupingIndex.get? g.key = some id' :=
    (indexed _ _).2 (by rw [stored', Option.map_some, same])
  exact Option.some.inj (named.symm.trans named')

/-- A grouping is inserted exactly if the index does not name its key. -/
theorem insertGrouping_iff : s.insertGrouping g = .ok s' ↔
    s.groupingIndex.get? g.key = none ∧
      s' = { s with
        groupingIndex := s.groupingIndex.insert g.key g.id
        groupings := s.groupings.insert g.id g } := by
  unfold insertGrouping SortedMap.contains
  split
  · next named => simp [Option.ne_none_iff_isSome.2 named]
  · next unnamed => simp [Option.not_isSome_iff_eq_none.1 unnamed, eq_comm]

/-- An insertion that is refused has met a grouping with the key. -/
theorem insertGrouping_eq_error {e : StoreError} (h : s.insertGrouping g = .error e) :
    e.isConflict ∧ ∃ id, s.groupingIndex.get? g.key = some id := by
  unfold insertGrouping at h
  split at h
  · next named =>
    obtain rfl := Except.error.inj h
    exact ⟨rfl, Option.isSome_iff_exists.1 named⟩
  · contradiction

theorem Indexed.insertGrouping (indexed : s.Indexed) (unused : s.groupings.get? g.id = none)
    (h : s.insertGrouping g = .ok s') : s'.Indexed := by
  obtain ⟨unnamed, rfl⟩ := insertGrouping_iff.1 h
  intro key id
  simp only [SortedMap.get?_insert]
  by_cases sameKey : key = g.key <;> by_cases sameId : id = g.id
  · simp [sameKey, sameId]
  · -- The key was not in use, so no other grouping has it.
    have other : (s.groupings.get? id).map Grouping.key ≠ some g.key := fun found => by
      rw [← indexed, unnamed] at found
      contradiction
    simp [sameKey, sameId, other, Ne.symm sameId]
  · -- The id was not in use, so the index names it for no other key.
    have other : s.groupingIndex.get? key ≠ some g.id := fun found => by
      rw [indexed, unused] at found
      contradiction
    simp [sameKey, sameId, other, Ne.symm sameKey]
  · simp [sameKey, sameId, indexed key id]

theorem get?_insertGrouping (h : s.insertGrouping g = .ok s') (id : GroupingId) :
    s'.groupings.get? id = if id = g.id then some g else s.groupings.get? id := by
  obtain ⟨-, rfl⟩ := insertGrouping_iff.1 h
  exact SortedMap.get?_insert _ _ _ _

theorem filedBy_insertGrouping (filed : s.groupings.FiledBy Grouping.id)
    (h : s.insertGrouping g = .ok s') : s'.groupings.FiledBy Grouping.id := by
  obtain ⟨-, rfl⟩ := insertGrouping_iff.1 h
  exact filed.insert g

theorem Indexed.groupingByKey?_inserted (indexed : s.Indexed)
    (filed : s.groupings.FiledBy Grouping.id) (unused : s.groupings.get? g.id = none)
    (h : s.insertGrouping g = .ok s') : s'.groupingByKey? g.key = some g := by
  refine ((indexed.insertGrouping unused h).groupingByKey?_eq_some
    (filedBy_insertGrouping filed h)).2 ⟨?_, rfl⟩
  rw [get?_insertGrouping h, if_pos rfl]

/-- What a look-up finds, it finds after an insertion too. -/
theorem Indexed.groupingByKey?_mono (indexed : s.Indexed)
    (filed : s.groupings.FiledBy Grouping.id) (unused : s.groupings.get? g.id = none)
    (h : s.insertGrouping g = .ok s') (found : s.groupingByKey? key = some g') :
    s'.groupingByKey? key = some g' := by
  obtain ⟨stored, same⟩ := (indexed.groupingByKey?_eq_some filed).1 found
  refine ((indexed.insertGrouping unused h).groupingByKey?_eq_some
    (filedBy_insertGrouping filed h)).2 ⟨?_, same⟩
  rw [get?_insertGrouping h, if_neg, stored]
  rintro taken
  rw [taken, unused] at stored
  contradiction

/-- The store with groupings written into both tables, whatever their keys. -/
def withGroupings (s : Store) (gs : List Grouping) : Store :=
  { s with
    groupings := gs.foldl (fun m g => m.insert g.id g) s.groupings
    groupingIndex := gs.foldl (fun m g => m.insert g.key g.id) s.groupingIndex }

/-- Groupings are inserted one after the other exactly if their keys are new and differ. -/
theorem insertGroupings_iff {gs : List Grouping} :
    gs.foldlM Store.insertGrouping s = .ok s' ↔
      (gs.map Grouping.key).Nodup ∧ (∀ g ∈ gs, s.groupingIndex.get? g.key = none) ∧
        s' = s.withGroupings gs := by
  induction gs generalizing s with
  | nil => simp [withGroupings, pure, Except.pure, eq_comm]
  | cons g rest ih =>
    rw [List.foldlM_cons, List.map_cons, List.nodup_cons, List.forall_mem_cons, bind_eq_ok]
    constructor
    · rintro ⟨s₁, inserted, others⟩
      obtain ⟨unnamed, rfl⟩ := insertGrouping_iff.1 inserted
      obtain ⟨distinct, unnamed', rfl⟩ := ih.1 others
      have apart : ∀ g' ∈ rest, g'.key ≠ g.key := fun g' mem same => by
        have := unnamed' g' mem
        rw [SortedMap.get?_insert, if_pos same] at this
        contradiction
      refine ⟨⟨fun mem => ?_, distinct⟩, ⟨unnamed, fun g' mem => ?_⟩, rfl⟩
      · obtain ⟨g', mem, same⟩ := List.mem_map.1 mem
        exact apart g' mem same
      · have := unnamed' g' mem
        rwa [SortedMap.get?_insert, if_neg (apart g' mem)] at this
    · rintro ⟨⟨first, distinct⟩, ⟨unnamed, unnamed'⟩, rfl⟩
      refine ⟨_, insertGrouping_iff.2 ⟨unnamed, rfl⟩, ih.2 ⟨distinct, fun g' mem => ?_, rfl⟩⟩
      rw [SortedMap.get?_insert, if_neg, unnamed' g' mem]
      rintro same
      exact first (same ▸ List.mem_map_of_mem mem)

theorem Indexed.insertGroupings {gs : List Grouping} (indexed : s.Indexed)
    (distinct : (gs.map Grouping.id).Nodup) (unused : ∀ g ∈ gs, s.groupings.get? g.id = none)
    (h : gs.foldlM Store.insertGrouping s = .ok s') : s'.Indexed := by
  induction gs generalizing s with
  | nil =>
    obtain rfl := Except.ok.inj h
    exact indexed
  | cons g rest ih =>
    obtain ⟨s₁, inserted, h⟩ := bind_eq_ok.1 h
    obtain ⟨first, distinct⟩ := List.nodup_cons.1 distinct
    obtain ⟨here, unused⟩ := List.forall_mem_cons.1 unused
    refine ih (indexed.insertGrouping here inserted) distinct (fun g' mem => ?_) h
    rw [get?_insertGrouping inserted, if_neg, unused g' mem]
    rintro same
    exact first (same ▸ List.mem_map_of_mem mem)

/-- A seeded store is coherent if no two groupings have one id. -/
theorem indexed_ofRecords {r : Records} (distinct : (r.groupings.map Grouping.id).Nodup)
    (h : ofRecords r = .ok s) : s.Indexed := by
  obtain ⟨grouped, inserted, h⟩ := bind_eq_ok.1 h
  obtain rfl := Except.ok.inj h
  have indexed : grouped.Indexed :=
    indexed_empty.insertGroupings distinct (fun _ _ => rfl) inserted
  exact indexed

end Haulage.Store
