import Haulage.Dataset
import Haulage.Proofs.Seeding
import Haulage.Proofs.Wire.Records

/-! A dataset that is written and read again makes the same rates and the same store: the values
are read from their own JSON, and a store is what its own records seed. -/
namespace Haulage

namespace SortedMap
variable {κ α : Type} [Ord κ] [Std.TransOrd κ] [Std.LawfulEqOrd κ] [DecidableEq κ]
  {key : α → κ} {m n : SortedMap κ α} {vs : List α}

theorem FiledBy.get?_eq_some_iff (filed : m.FiledBy key) {k : κ} {v : α} :
    m.get? k = some v ↔ v ∈ m.values ∧ key v = k := by
  rw [filed.mem_values_iff]
  constructor
  · intro stored
    obtain rfl := filed stored
    exact ⟨stored, rfl⟩
  · rintro ⟨stored, rfl⟩
    exact stored

/-- The values determine a map that files them. -/
theorem FiledBy.ext_values (filed : m.FiledBy key) (filed' : n.FiledBy key)
    (perm : m.values.Perm n.values) : m = n :=
  ext_get? fun k => Option.ext fun v => by
    rw [filed.get?_eq_some_iff, filed'.get?_eq_some_iff, perm.mem_iff]

theorem FiledBy.foldl_insert_eq (filed : m.FiledBy key) (perm : vs.Perm m.values) :
    vs.foldl (fun m v => m.insert (key v) v) empty = m :=
  FiledBy.ext_values filedBy_empty.foldl_insert filed <|
    (values_foldl_insert_perm_iff.2 ((perm.map key).nodup_iff.2 filed.nodup_keys)).trans perm

theorem FiledBy.ofList_eq (filed : m.FiledBy key) (perm : vs.Perm m.values) :
    ofList (vs.map fun v => (key v, v)) = m := by
  rw [ofList, List.foldl_map]
  exact filed.foldl_insert_eq perm

end SortedMap

attribute [ext] Store

namespace Store
variable {s s' : Store}

theorem Indexed.groupingIndex_eq (indexed : s.Indexed) (indexed' : s'.Indexed)
    (same : s.groupings = s'.groupings) : s.groupingIndex = s'.groupingIndex :=
  SortedMap.ext_get? fun key => Option.ext fun id => by
    rw [indexed key id, indexed' key id, same]

theorem Indexed.nodup_keys (indexed : s.Indexed) (filed : s.Filed) :
    (s.groupings.values.map Grouping.key).Nodup := by
  refine filed.groupings.nodup_keys.of_map.map_on fun g mem g' mem' same => ?_
  have stored := filed.groupings.mem_values_iff.1 mem
  have stored' := filed.groupings.mem_values_iff.1 mem'
  rw [indexed.eq_of_key_eq stored stored' same] at stored
  exact Option.some.inj (stored.symm.trans stored')

/-- The records that a coherent store shows seed the store. -/
theorem ofRecords_snapshot (filed : s.Filed) (indexed : s.Indexed) :
    ofRecords s.snapshot = .ok s := by
  obtain ⟨s', seeded⟩ : ∃ s', ofRecords s.snapshot = .ok s' :=
    ⟨_, ofRecords_eq_ok.2 ⟨indexed.nodup_keys filed, rfl⟩⟩
  have groupings : s'.groupings = s.groupings := by
    obtain ⟨-, rfl⟩ := ofRecords_eq_ok.1 seeded
    exact filed.groupings.foldl_insert_eq (.refl _)
  have index : s'.groupingIndex = s.groupingIndex :=
    (indexed_ofRecords filed.groupings.nodup_keys seeded).groupingIndex_eq indexed groupings
  rw [seeded]
  obtain ⟨-, rfl⟩ := ofRecords_eq_ok.1 seeded
  exact congrArg Except.ok <| Store.ext
    (filed.shipments.ofList_eq (.refl _))
    (filed.lineItems.ofList_eq (oldestFirst_perm _))
    (filed.dimensions.ofList_eq (.refl _))
    (filed.addresses.ofList_eq (.refl _))
    (filed.sits.ofList_eq (oldestFirst_perm _))
    (filed.carriers.ofList_eq (.refl _))
    (filed.performances.ofList_eq (.refl _))
    groupings index

end Store

namespace SortedMap
variable {κ α β : Type} [Ord κ]

def mapValues (f : α → β) (m : SortedMap κ α) : SortedMap κ β where
  entries := m.entries.map fun e => (e.1, f e.2)
  ascending := List.pairwise_map.2 m.ascending

theorem values_mapValues (f : α → β) (m : SortedMap κ α) :
    (m.mapValues f).values = m.values.map f := by
  simp [values, mapValues]

theorem FiledBy.mapValues [Std.TransOrd κ] [Std.LawfulEqOrd κ] [DecidableEq κ] {key : α → κ}
    {key' : β → κ} {f : α → β} {m : SortedMap κ α} (filed : m.FiledBy key)
    (kept : ∀ a, key' (f a) = key a) : (m.mapValues f).FiledBy key' := by
  refine (forall_get?_iff _ fun k v => key' v = k).2 (List.forall_mem_map.2 fun e mem => ?_)
  rw [kept]
  exact (forall_get?_iff m fun k v => key v = k).1 filed e mem

end SortedMap

namespace Store
variable {s : Store}

/-- The same store, zeros without a sign. -/
def unsignedZeros (s : Store) : Store :=
  { s with performances := s.performances.mapValues CarrierPerformance.unsignedZeros }

theorem snapshot_unsignedZeros (s : Store) : s.unsignedZeros.snapshot = s.snapshot.unsignedZeros := by
  simp only [snapshot, unsignedZeros, Records.unsignedZeros, SortedMap.values_mapValues]

theorem Filed.unsignedZeros (filed : s.Filed) : s.unsignedZeros.Filed :=
  { filed with performances := filed.performances.mapValues fun _ => rfl }

end Store

namespace Dataset

def unsignedZeros (d : Dataset) : Dataset := { d with records := d.records.unsignedZeros }

theorem plain_toJson : ∀ d : Dataset, (toJson d).Plain 5 :=
  LawfulJson.plain_record fieldNames (fun _ => rfl) (fun _ => rfl) (by decide)
    (by simp [Records.plain_toJson])

theorem ofJson?_toJson : ∀ d : Dataset, ofJson? (toJson d) = some d.unsignedZeros :=
  LawfulJson.ofJson?_record fieldNames (fun _ => rfl) (fun _ => rfl) (by decide) (fun _ => rfl)
    (by simp [JsonFields.lookup_of_ne, Records.ofJsonAt?_toJson, unsignedZeros])

/-- What is written as a text is read from it. -/
theorem ofText_toText (d : Dataset) : ofText d.toText = .ok d.unsignedZeros := by
  rw [ofText, ofText?, toText, d.plain_toJson.ofText?_toText, Option.bind_some, ofJson?_toJson]

end Dataset

theorem ReferenceData.ofDocument?_eq {j : Json} {h : Nat} (plain : j.Plain h)
    (shallow : h ≤ Json.maxDepth) :
    ofDocument? j.toText = ofJson? ((j.get? "reference").getD j) := by
  rw [ofDocument?, plain.ofText?_toText]
  show j.document?.bind _ = _
  rw [plain.document?_eq shallow, Option.bind_some]

theorem ReferenceData.ofDocument?_toText (data : ReferenceData) :
    ofDocument? (toJson data).toText = some data := by
  rw [ofDocument?_eq (LawfulJson.plain data) (by decide)]
  exact ofJson?_toJson data

/-- The reference tables of a dataset are found in its text. -/
theorem Dataset.ofDocument?_toText (d : Dataset) :
    ReferenceData.ofDocument? d.toText = some d.reference := by
  rw [toText, ReferenceData.ofDocument?_eq d.plain_toJson (by decide)]
  exact LawfulJson.ofJson?_toJson d.reference

theorem RateTable.load_eq {files : Files} {name text : String} {data : ReferenceData}
    (found : files name = some text) (read : ReferenceData.ofDocument? text = some data) :
    load files name = ofReference data := by
  rw [load, Files.read, found]
  show ofReadable (ReferenceData.ofDocument? text) = _
  rw [read, ofReadable]

structure CarrierPerformance.Same (p q : CarrierPerformance) : Prop where
  linehaulRate : p.linehaulRate.value.Same q.linehaulRate.value
  bestValueScore : p.bestValueScore.Same q.bestValueScore
  others : q = { p with linehaulRate := q.linehaulRate, bestValueScore := q.bestValueScore }

theorem CarrierPerformance.same_unsignedZeros (p : CarrierPerformance) : p.Same p.unsignedZeros :=
  ⟨Decimal.same_unsignedZero _, Decimal.same_unsignedZero _, rfl⟩

/-- The same tables with the same records in the same order. -/
structure Dataset.Same (d d' : Dataset) : Prop where
  performances :
    List.Forall₂ CarrierPerformance.Same d.records.performances d'.records.performances
  others : d' = { d with records.performances := d'.records.performances }

theorem Dataset.same_unsignedZeros (d : Dataset) : d.Same d.unsignedZeros where
  performances := List.forall₂_map_right_iff.2 <|
    List.forall₂_same.2 fun p _ => p.same_unsignedZeros
  others := rfl

/-- The same tables and the same index. -/
structure Store.Same (s s' : Store) : Prop where
  performances :
    List.Forall₂ (fun e e' => e.1 = e'.1 ∧ e.2.Same e'.2) s.performances.entries
      s'.performances.entries
  others : s' = { s with performances := s'.performances }

theorem Store.same_unsignedZeros (s : Store) : s.Same s.unsignedZeros where
  performances := List.forall₂_map_right_iff.2 <|
    List.forall₂_same.2 fun e _ => ⟨rfl, e.2.same_unsignedZeros⟩
  others := rfl

/-- A dataset that shows a coherent store is read from its own text, and makes the rates and the
store it was made of. The rates are loaded from it as from the reference tables alone. -/
theorem Dataset.reload {data : ReferenceData} {rates : RateTable} {s : Store}
    (accepted : RateTable.ofReference data = .ok rates) (filed : s.Filed) (indexed : s.Indexed) :
    let saved : Dataset := { reference := data, records := s.snapshot }
    ∃ d s', Dataset.ofText saved.toText = .ok d ∧ saved.Same d ∧
      d.parts = .ok (rates, s') ∧ s.Same s' ∧
      ∀ (files : Files) (name : String),
        files name = some (toJson data).toText ∨ files name = some saved.toText →
          RateTable.load files name = .ok rates := by
  intro saved
  have seeded : Store.ofRecords saved.unsignedZeros.records = .ok s.unsignedZeros := by
    rw [← Store.ofRecords_snapshot filed.unsignedZeros indexed, Store.snapshot_unsignedZeros]
    rfl
  have parts : saved.unsignedZeros.parts = .ok (rates, s.unsignedZeros) := by
    rw [Dataset.parts, seeded]
    show (RateTable.ofReference data).bind _ = _
    rw [accepted]
    rfl
  refine ⟨_, _, saved.ofText_toText, saved.same_unsignedZeros, parts, s.same_unsignedZeros, ?_⟩
  intro files name found
  rw [← accepted]
  rcases found with bare | whole
  · exact RateTable.load_eq bare data.ofDocument?_toText
  · exact RateTable.load_eq whole saved.ofDocument?_toText

/-- The sample store beside the sample tables. -/
theorem Dataset.reload_sample :
    let saved : Dataset := { reference := Sample.reference, records := Sample.store.snapshot }
    RateTable.ofReference Sample.reference = .ok Sample.rates ∧ Sample.store.Filed ∧
      Sample.store.Indexed ∧
      ∃ d s', Dataset.ofText saved.toText = .ok d ∧ saved.Same d ∧
        d.parts = .ok (Sample.rates, s') ∧ Sample.store.Same s' ∧
        RateTable.load (fun _ => some saved.toText) "dataset.json" = .ok Sample.rates := by
  have accepted : RateTable.ofReference Sample.reference = .ok Sample.rates := rfl
  have indexed : Sample.store.Indexed :=
    Store.indexed_ofRecords (r := Sample.records) (by decide +kernel) rfl
  obtain ⟨d, s', read, same, parts, kept, load⟩ :=
    Dataset.reload accepted Sample.filed_store indexed
  exact ⟨accepted, Sample.filed_store, indexed, d, s', read, same, parts, kept,
    load _ _ (.inr rfl)⟩

end Haulage
