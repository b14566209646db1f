import Haulage.Proofs.Results
import Mathlib.Data.List.Perm.Basic
import Mathlib.Data.List.Pairwise

/-! Records stand in their tables under their own ids. A store seeded with records is
filed so, and whoever writes a record through the store keeps it so. -/
namespace Haulage

namespace SortedMap
variable {κ α : Type} [Ord κ] [DecidableEq κ]

/-- Every value stands under the key that it names itself by. -/
def FiledBy (key : α → κ) (m : SortedMap κ α) : Prop :=
  ∀ ⦃k v⦄, m.get? k = some v → key v = k

theorem filedBy_empty {key : α → κ} : FiledBy key (empty : SortedMap κ α) := by
  intro k v h
  simp at h

theorem FiledBy.erase {key : α → κ} {m : SortedMap κ α} (filed : m.FiledBy key) (k : κ) :
    (m.erase k).FiledBy key := by
  intro k' v h
  rw [get?_erase] at h
  split at h
  · contradiction
  · exact filed h

section Ordered
variable [Std.TransOrd κ] [Std.LawfulEqOrd κ]

theorem FiledBy.insert {key : α → κ} {m : SortedMap κ α} (filed : m.FiledBy key) (v : α) :
    (m.insert (key v) v).FiledBy key := by
  intro k w h
  rw [get?_insert] at h
  split at h
  · next same =>
    obtain rfl := Option.some.inj h
    exact same.symm
  · exact filed h

theorem mem_values_iff {m : SortedMap κ α} {v : α} : v ∈ m.values ↔ ∃ k, m.get? k = some v := by
  simp [values, get?_eq_some_iff]

theorem FiledBy.mem_values_iff {key : α → κ} {m : SortedMap κ α} (filed : m.FiledBy key) {v : α} :
    v ∈ m.values ↔ m.get? (key v) = some v := by
  rw [SortedMap.mem_values_iff]
  constructor
  · rintro ⟨k, h⟩
    rwa [filed h]
  · exact fun h => ⟨_, h⟩

/-- The values stand in the order of their own keys. -/
theorem FiledBy.pairwise_values {key : α → κ} {m : SortedMap κ α} (filed : m.FiledBy key) :
    m.values.Pairwise (fun a b => compare (key a) (key b) = .lt) := by
  rw [values, List.pairwise_map]
  refine m.ascending.imp_of_mem fun {a b} ha hb less => ?_
  rwa [filed (get?_eq_some_iff.2 ha), filed (get?_eq_some_iff.2 hb)]

theorem FiledBy.nodup_keys {key : α → κ} {m : SortedMap κ α} (filed : m.FiledBy key) :
    (m.values.map key).Nodup :=
  List.pairwise_map.2 <| filed.pairwise_values.imp fun {a b} less same => by
    rw [same] at less
    simp at less

theorem forall_get?_iff (m : SortedMap κ α) (p : κ → α → Prop) :
    (∀ ⦃k v⦄, m.get? k = some v → p k v) ↔ ∀ e ∈ m.entries, p e.1 e.2 := by
  constructor
  · intro h e mem
    exact h (get?_eq_some_iff.2 mem)
  · intro h k v stored
    exact h _ (get?_eq_some_iff.1 stored)

theorem insert_of_get? {m : SortedMap κ α} {k : κ} {v : α} (h : m.get? k = some v) :
    m.insert k v = m := by
  apply ext_get?
  intro k'
  rw [get?_insert]
  split
  · next same => rw [same, h]
  · rfl

theorem insert_insert (m : SortedMap κ α) (k : κ) (v w : α) :
    (m.insert k v).insert k w = m.insert k w := by
  apply ext_get?
  intro k'
  simp only [get?_insert]
  split <;> rfl

theorem insert_comm (m : SortedMap κ α) {k k' : κ} (v v' : α) (other : k ≠ k') :
    (m.insert k v).insert k' v' = (m.insert k' v').insert k v := by
  apply ext_get?
  intro l
  simp only [get?_insert]
  grind

theorem filedBy_ofList {key : α → κ} (vs : List α) :
    (ofList (vs.map fun v => (key v, v))).FiledBy key := by
  have grow (m : SortedMap κ α) (filed : m.FiledBy key) :
      ((vs.map fun v => (key v, v)).foldl (fun m e => m.insert e.1 e.2) m).FiledBy key := by
    induction vs generalizing m with
    | nil => exact filed
    | cons v rest ih => exact ih _ (filed.insert v)
  exact grow empty filedBy_empty

variable {key : α → κ} {m : SortedMap κ α} {vs : List α}

/-- What stands under a key after many insertions: one of the values inserted, or what
stood there before if none of them has the key. -/
theorem get?_foldl_insert {k : κ} {v : α}
    (h : (vs.foldl (fun m v => m.insert (key v) v) m).get? k = some v) :
    (v ∈ vs ∧ key v = k) ∨ (m.get? k = some v ∧ ∀ w ∈ vs, key w ≠ k) := by
  induction vs generalizing m with
  | nil => exact .inr ⟨h, by simp⟩
  | cons w rest ih =>
    rcases ih h with ⟨mem, same⟩ | ⟨before, others⟩
    · exact .inl ⟨List.mem_cons_of_mem _ mem, same⟩
    · rw [get?_insert] at before
      split at before
      · next same =>
        obtain rfl := Option.some.inj before
        exact .inl ⟨List.mem_cons_self, same.symm⟩
      · next other =>
        exact .inr ⟨before, List.forall_mem_cons.2 ⟨fun same => other same.symm, others⟩⟩

/-- Insertions leave what stands under a key, or put one of the values there. -/
theorem get?_foldl_insert_cases (m : SortedMap κ α) (vs : List α) (k : κ) :
    (vs.foldl (fun m v => m.insert (key v) v) m).get? k = m.get? k ∨
      ∃ v ∈ vs, key v = k ∧ (vs.foldl (fun m v => m.insert (key v) v) m).get? k = some v := by
  induction vs generalizing m with
  | nil => exact .inl rfl
  | cons w rest ih =>
    rw [List.foldl_cons]
    rcases ih (m.insert (key w) w) with same | ⟨v, mem, here, found⟩
    · rw [get?_insert] at same
      split at same
      · next here => exact .inr ⟨w, List.mem_cons_self, here.symm, same⟩
      · exact .inl same
    · exact .inr ⟨v, List.mem_cons_of_mem _ mem, here, found⟩

theorem get?_foldl_insert_of_forall_ne {k : κ} (others : ∀ w ∈ vs, key w ≠ k) :
    (vs.foldl (fun m v => m.insert (key v) v) m).get? k = m.get? k := by
  induction vs generalizing m with
  | nil => rfl
  | cons w rest ih =>
    obtain ⟨other, others⟩ := List.forall_mem_cons.1 others
    rw [List.foldl_cons, ih others, get?_insert, if_neg (Ne.symm other)]

theorem get?_foldl_insert_of_mem {v : α} (distinct : (vs.map key).Nodup) (mem : v ∈ vs) :
    (vs.foldl (fun m v => m.insert (key v) v) m).get? (key v) = some v := by
  induction vs generalizing m with
  | nil => contradiction
  | cons w rest ih =>
    obtain ⟨apart, distinct⟩ := List.nodup_cons.1 distinct
    rcases List.mem_cons.1 mem with rfl | mem
    · have others : ∀ w ∈ rest, key w ≠ key v := fun w hw same =>
        apart (same ▸ List.mem_map_of_mem hw)
      rw [List.foldl_cons, get?_foldl_insert_of_forall_ne others, get?_insert, if_pos rfl]
    · exact ih distinct mem

theorem FiledBy.foldl_insert (filed : m.FiledBy key) :
    (vs.foldl (fun m v => m.insert (key v) v) m).FiledBy key := by
  induction vs generalizing m with
  | nil => exact filed
  | cons v rest ih => exact ih (filed.insert v)

/-- Inserting what stands there already changes nothing. -/
theorem foldl_insert_of_get? (there : ∀ v ∈ vs, m.get? (key v) = some v) :
    vs.foldl (fun m v => m.insert (key v) v) m = m := by
  induction vs with
  | nil => rfl
  | cons v rest ih =>
    obtain ⟨here, there⟩ := List.forall_mem_cons.1 there
    rw [List.foldl_cons, insert_of_get? here, ih there]

end Ordered
end SortedMap

namespace Store

/-- Every record stands under its own id. -/
structure Filed (s : Store) : Prop where
  shipments : s.shipments.FiledBy Shipment.id
  lineItems : s.lineItems.FiledBy LineItem.id
  dimensions : s.dimensions.FiledBy Dimensions.id
  addresses : s.addresses.FiledBy Address.id
  sits : s.sits.FiledBy Sit.id
  carriers : s.carriers.FiledBy Carrier.id
  performances : s.performances.FiledBy CarrierPerformance.id
  groupings : s.groupings.FiledBy Grouping.id

theorem filed_empty : Store.empty.Filed := by
  constructor <;> exact SortedMap.filedBy_empty

theorem insertGrouping_eq_ok {s s' : Store} {g : Grouping} (h : s.insertGrouping g = .ok s') :
    s' = { s with
      groupingIndex := s.groupingIndex.insert g.key g.id
      groupings := s.groupings.insert g.id g } := by
  unfold insertGrouping at h
  split at h
  · contradiction
  · exact (Except.ok.inj h).symm

theorem Filed.insertGrouping {s s' : Store} {g : Grouping} (filed : s.Filed)
    (h : s.insertGrouping g = .ok s') : s'.Filed := by
  obtain rfl := insertGrouping_eq_ok h
  exact { filed with groupings := filed.groupings.insert g }

theorem Filed.insertGroupings {gs : List Grouping} {s s' : Store} (filed : s.Filed)
    (h : gs.foldlM Store.insertGrouping s = .ok s') : s'.Filed := by
  induction gs generalizing s with
  | nil =>
    obtain rfl := Except.ok.inj h
    exact filed
  | cons g rest ih =>
    obtain ⟨s₁, inserted, h⟩ := bind_eq_ok.1 h
    exact ih (filed.insertGrouping inserted) h

/-- Seeding files every record under its own id. -/
theorem filed_ofRecords {r : Records} {s : Store} (h : ofRecords r = .ok s) : s.Filed := by
  obtain ⟨grouped, inserted, h⟩ := bind_eq_ok.1 h
  obtain rfl := Except.ok.inj h
  exact {
    shipments := SortedMap.filedBy_ofList _
    lineItems := SortedMap.filedBy_ofList _
    dimensions := SortedMap.filedBy_ofList _
    addresses := SortedMap.filedBy_ofList _
    sits := SortedMap.filedBy_ofList _
    carriers := SortedMap.filedBy_ofList _
    performances := SortedMap.filedBy_ofList _
    groupings := (filed_empty.insertGroupings inserted).groupings }

variable {s : Store}

theorem Filed.saveShipment (filed : s.Filed) (x : Shipment) : (s.saveShipment x).Filed :=
  { filed with shipments := filed.shipments.insert x }

theorem Filed.saveLineItem (filed : s.Filed) (x : LineItem) : (s.saveLineItem x).Filed :=
  { filed with lineItems := filed.lineItems.insert x }

theorem get?_saveLineItem {x : LineItem} {id : LineItemId} (sameId : x.id = id) :
    (s.saveLineItem x).lineItems.get? id = some x := by
  rw [saveLineItem, SortedMap.get?_insert, if_pos sameId.symm]

theorem Filed.saveDimensions (filed : s.Filed) (x : Dimensions) : (s.saveDimensions x).Filed :=
  { filed with dimensions := filed.dimensions.insert x }

theorem Filed.saveAddress (filed : s.Filed) (x : Address) : (s.saveAddress x).Filed :=
  { filed with addresses := filed.addresses.insert x }

theorem Filed.saveSit (filed : s.Filed) (x : Sit) : (s.saveSit x).Filed :=
  { filed with sits := filed.sits.insert x }

/-- `s'` has the shipments, line items and performances of `s`. -/
structure Beside (s s' : Store) : Prop where
  shipments : s'.shipments = s.shipments
  lineItems : s'.lineItems = s.lineItems
  performances : s'.performances = s.performances
  filed : s.Filed → s'.Filed

variable {s' s'' : Store}

theorem Beside.refl (s : Store) : s.Beside s := ⟨rfl, rfl, rfl, fun filed => filed⟩

theorem Beside.trans (first : s.Beside s') (second : s'.Beside s'') : s.Beside s'' where
  shipments := second.shipments.trans first.shipments
  lineItems := second.lineItems.trans first.lineItems
  performances := second.performances.trans first.performances
  filed filed := second.filed (first.filed filed)

theorem beside_saveDimensions (x : Dimensions) : s.Beside (s.saveDimensions x) :=
  ⟨rfl, rfl, rfl, fun filed => filed.saveDimensions x⟩

theorem beside_saveAddress (x : Address) : s.Beside (s.saveAddress x) :=
  ⟨rfl, rfl, rfl, fun filed => filed.saveAddress x⟩

theorem beside_saveSit (x : Sit) : s.Beside (s.saveSit x) :=
  ⟨rfl, rfl, rfl, fun filed => filed.saveSit x⟩

theorem beside_eraseDimensions (id : DimensionsId) :
    s.Beside { s with dimensions := s.dimensions.erase id } :=
  ⟨rfl, rfl, rfl, fun filed => { filed with dimensions := filed.dimensions.erase id }⟩

theorem beside_eraseAddress (id : AddressId) :
    s.Beside { s with addresses := s.addresses.erase id } :=
  ⟨rfl, rfl, rfl, fun filed => { filed with addresses := filed.addresses.erase id }⟩

theorem beside_eraseSit (id : SitId) : s.Beside { s with sits := s.sits.erase id } :=
  ⟨rfl, rfl, rfl, fun filed => { filed with sits := filed.sits.erase id }⟩

theorem beside_foldl {α : Type} {f : Store → α → Store} {xs : List α}
    (beside : ∀ (s : Store) (x : α), s.Beside (f s x)) : s.Beside (xs.foldl f s) := by
  induction xs generalizing s with
  | nil => exact .refl s
  | cons x rest ih => exact (beside s x).trans ih

end Store
end Haulage
