import Haulage.Proofs.Age
import Haulage.Proofs.Groupings.Index
import Haulage.Proofs.Sample

/-! What a store holds of the records that it is seeded with. Of records with one id only the
last is kept, so all of them are there exactly if no list has two with one id; the keys of
groupings differ wherever seeding succeeds. -/
namespace Haulage

namespace SortedMap
variable {κ α : Type} [Ord κ] [Std.TransOrd κ] [Std.LawfulEqOrd κ] [DecidableEq κ]
  {key : α → κ} {vs : List α}

/-- Values inserted into an empty map are all there exactly if their keys differ. -/
theorem values_foldl_insert_perm_iff :
    (vs.foldl (fun m v => m.insert (key v) v) (empty : SortedMap κ α)).values.Perm vs ↔
      (vs.map key).Nodup := by
  have filed : (vs.foldl (fun m v => m.insert (key v) v) (empty : SortedMap κ α)).FiledBy key :=
    filedBy_empty.foldl_insert
  constructor
  · intro perm
    exact (perm.map key).nodup_iff.1 filed.nodup_keys
  · intro distinct
    refine (List.perm_ext_iff_of_nodup filed.nodup_keys.of_map distinct.of_map).2 fun v => ?_
    rw [filed.mem_values_iff]
    constructor
    · intro stored
      rcases get?_foldl_insert stored with ⟨mem, _⟩ | ⟨before, _⟩
      · exact mem
      · simp at before
    · exact get?_foldl_insert_of_mem distinct

theorem values_ofList_perm_iff :
    (ofList (vs.map fun v => (key v, v))).values.Perm vs ↔ (vs.map key).Nodup := by
  rw [ofList, List.foldl_map]
  exact values_foldl_insert_perm_iff

end SortedMap

/-- No list has two records with one id. -/
structure Records.DistinctIds (r : Records) : Prop where
  shipments : (r.shipments.map Shipment.id).Nodup
  lineItems : (r.lineItems.map LineItem.id).Nodup
  dimensions : (r.dimensions.map Dimensions.id).Nodup
  addresses : (r.addresses.map Address.id).Nodup
  sits : (r.sits.map Sit.id).Nodup
  carriers : (r.carriers.map Carrier.id).Nodup
  performances : (r.performances.map CarrierPerformance.id).Nodup
  groupings : (r.groupings.map Grouping.id).Nodup

namespace Store
variable {r : Records} {s : Store}

/-- The store shows the records and no others, and finds each grouping by its key. -/
structure Holds (s : Store) (r : Records) : Prop where
  shipments : s.snapshot.shipments.Perm r.shipments
  lineItems : s.snapshot.lineItems.Perm r.lineItems
  dimensions : s.snapshot.dimensions.Perm r.dimensions
  addresses : s.snapshot.addresses.Perm r.addresses
  sits : s.snapshot.sits.Perm r.sits
  carriers : s.snapshot.carriers.Perm r.carriers
  performances : s.snapshot.performances.Perm r.performances
  groupings : s.snapshot.groupings.Perm r.groupings
  byKey : ∀ g ∈ r.groupings, s.groupingByKey? g.key = some g

/-- Seeding succeeds exactly if the keys of the groupings differ. -/
theorem ofRecords_eq_ok : ofRecords r = .ok s ↔ (r.groupings.map Grouping.key).Nodup ∧
    s = { empty.withGroupings r.groupings with
      shipments := .ofList (r.shipments.map fun x => (x.id, x))
      lineItems := .ofList (r.lineItems.map fun x => (x.id, x))
      dimensions := .ofList (r.dimensions.map fun x => (x.id, x))
      addresses := .ofList (r.addresses.map fun x => (x.id, x))
      sits := .ofList (r.sits.map fun x => (x.id, x))
      carriers := .ofList (r.carriers.map fun x => (x.id, x))
      performances := .ofList (r.performances.map fun x => (x.id, x)) } := by
  have unnamed : ∀ g ∈ r.groupings, empty.groupingIndex.get? g.key = none := fun _ _ => rfl
  rw [ofRecords, bind_eq_ok]
  constructor
  · rintro ⟨grouped, inserted, seeded⟩
    obtain ⟨distinct, -, rfl⟩ := insertGroupings_iff.1 inserted
    exact ⟨distinct, (Except.ok.inj seeded).symm⟩
  · rintro ⟨distinct, rfl⟩
    exact ⟨_, insertGroupings_iff.2 ⟨distinct, unnamed, rfl⟩, rfl⟩

/-- A seeded store finds a grouping by its key if no two have one id. -/
theorem groupingByKey?_ofRecords (distinct : (r.groupings.map Grouping.id).Nodup)
    (h : ofRecords r = .ok s) {g : Grouping} (mem : g ∈ r.groupings) :
    s.groupingByKey? g.key = some g := by
  refine ((indexed_ofRecords distinct h).groupingByKey?_eq_some
    (filed_ofRecords h).groupings).2 ⟨?_, rfl⟩
  obtain ⟨-, rfl⟩ := ofRecords_eq_ok.1 h
  exact SortedMap.get?_foldl_insert_of_mem distinct mem

/-- Of what a store is seeded with it holds everything exactly if no two records of a list
have one id. -/
theorem holds_iff_distinctIds (h : ofRecords r = .ok s) : s.Holds r ↔ r.DistinctIds := by
  obtain ⟨-, seeded⟩ := ofRecords_eq_ok.1 h
  have groupings : s.groupings.values.Perm r.groupings ↔ (r.groupings.map Grouping.id).Nodup := by
    rw [seeded]
    exact SortedMap.values_foldl_insert_perm_iff
  have byAge {α : Type} {created : α → Timestamp} {xs ys : List α} :
      (oldestFirst created xs).Perm ys ↔ xs.Perm ys :=
    ⟨(oldestFirst_perm xs).symm.trans, (oldestFirst_perm xs).trans⟩
  constructor
  · intro holds
    have lineItems := byAge.1 holds.lineItems
    have sits := byAge.1 holds.sits
    rw [seeded] at lineItems sits
    have shipments := holds.shipments
    have dimensions := holds.dimensions
    have addresses := holds.addresses
    have carriers := holds.carriers
    have performances := holds.performances
    simp only [snapshot, seeded] at shipments dimensions addresses carriers performances
    exact {
      shipments := SortedMap.values_ofList_perm_iff.1 shipments
      lineItems := SortedMap.values_ofList_perm_iff.1 lineItems
      dimensions := SortedMap.values_ofList_perm_iff.1 dimensions
      addresses := SortedMap.values_ofList_perm_iff.1 addresses
      sits := SortedMap.values_ofList_perm_iff.1 sits
      carriers := SortedMap.values_ofList_perm_iff.1 carriers
      performances := SortedMap.values_ofList_perm_iff.1 performances
      groupings := groupings.1 holds.groupings }
  · intro distinct
    refine ⟨?_, byAge.2 ?_, ?_, ?_, byAge.2 ?_, ?_, ?_, groupings.2 distinct.groupings,
      fun g mem => groupingByKey?_ofRecords distinct.groupings h mem⟩
    all_goals simp only [snapshot, seeded]
    · exact SortedMap.values_ofList_perm_iff.2 distinct.shipments
    · exact SortedMap.values_ofList_perm_iff.2 distinct.lineItems
    · exact SortedMap.values_ofList_perm_iff.2 distinct.dimensions
    · exact SortedMap.values_ofList_perm_iff.2 distinct.addresses
    · exact SortedMap.values_ofList_perm_iff.2 distinct.sits
    · exact SortedMap.values_ofList_perm_iff.2 distinct.carriers
    · exact SortedMap.values_ofList_perm_iff.2 distinct.performances

/-- The sample records have ids of their own, so the sample store holds them all. -/
theorem holds_iff_distinctIds_sample :
    Store.ofRecords Sample.records = .ok Sample.store ∧ Sample.records.DistinctIds ∧
      Sample.store.Holds Sample.records := by
  have seeded : Store.ofRecords Sample.records = .ok Sample.store := rfl
  have distinct : Sample.records.DistinctIds := by
    constructor <;> decide +kernel
  exact ⟨seeded, distinct, (holds_iff_distinctIds seeded).2 distinct⟩

/-- Two groupings of one id: the second takes the place of the first, and a look-up by the key
of the first finds it, though its key is another. -/
theorem replaced_grouping_sample :
    let first : Grouping := ⟨Sample.id 1, "US87", "REGION 1", "D"⟩
    let second : Grouping := ⟨Sample.id 1, "US88", "REGION 1", "D"⟩
    let records : Records := { groupings := [first, second] }
    ∃ s, Store.ofRecords records = .ok s ∧ s.snapshot.groupings = [second] ∧
      s.groupingByKey? first.key = some second ∧ ¬ s.Holds records := by
  intro first second records
  have lost : ((Store.ofRecords records).toOption.map fun s =>
      (s.snapshot.groupings, s.groupingByKey? first.key)) = some ([second], some second) := by
    decide +kernel
  obtain ⟨s, seeded, shown⟩ := Option.map_eq_some_iff.1 lost
  obtain ⟨groupings, found⟩ := Prod.mk.inj shown
  refine ⟨s, toOption_eq_some.1 seeded, groupings, found, fun holds => ?_⟩
  have kept := holds.byKey first (by simp [records])
  rw [found] at kept
  revert kept
  decide +kernel

end Store
end Haulage
