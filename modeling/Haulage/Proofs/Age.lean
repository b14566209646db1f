import Haulage.Proofs.Filing
import Mathlib.Data.List.Nodup

/-! Oldest first: a list of records with distinct ids has one order by age and id, and
that is the order in which a store shows the line items and SITs of a shipment. -/
namespace Haulage
variable {α : Type} {e : Entity} {created : α → Timestamp} {id : α → Id e}

/-- `a` is older than `b`, or as old and of a smaller id. -/
def Precedes (created : α → Timestamp) (id : α → Id e) (a b : α) : Prop :=
  compare (created a) (created b) = .lt ∨
    created a = created b ∧ compare (id a) (id b) = .lt

theorem Precedes.trans {a b c : α} (first : Precedes created id a b)
    (second : Precedes created id b c) : Precedes created id a c := by
  rcases first with older | ⟨same, less⟩ <;> rcases second with older' | ⟨same', less'⟩
  · exact .inl (Std.TransCmp.lt_trans older older')
  · exact .inl (same' ▸ older)
  · exact .inl (same ▸ older')
  · exact .inr ⟨same.trans same', Std.TransCmp.lt_trans less less'⟩

theorem Precedes.irrefl (a : α) : ¬ Precedes created id a a := by
  rintro (older | ⟨-, less⟩)
  · simp at older
  · simp at less

theorem insertByAge_perm (x : α) (ys : List α) : (insertByAge created x ys).Perm (x :: ys) := by
  induction ys with
  | nil => exact .refl _
  | cons y rest ih =>
    rw [insertByAge]
    split
    · exact .refl _
    · exact (ih.cons y).trans (.swap x y rest)

theorem oldestFirst_perm (xs : List α) : (oldestFirst created xs).Perm xs := by
  induction xs with
  | nil => exact .refl _
  | cons x rest ih => exact (insertByAge_perm x _).trans (ih.cons x)

/-- An element whose id is below all others goes before those that are no older, which
is where its id wants it among those of its age. -/
theorem pairwise_insertByAge {x : α} {ys : List α}
    (below : ∀ y ∈ ys, compare (id x) (id y) = .lt) (ordered : ys.Pairwise (Precedes created id)) :
    (insertByAge created x ys).Pairwise (Precedes created id) := by
  induction ys with
  | nil => simp [insertByAge]
  | cons y rest ih =>
    obtain ⟨first, ordered⟩ := List.pairwise_cons.1 ordered
    obtain ⟨lower, below⟩ := List.forall_mem_cons.1 below
    rw [insertByAge]
    split
    · next noOlder =>
      have before : Precedes created id x y := by
        rcases Ordering.isLE_iff_eq_lt_or_eq_eq.1 noOlder with older | same
        · exact .inl older
        · exact .inr ⟨Std.LawfulEqCmp.eq_of_compare same, lower⟩
      refine List.pairwise_cons.2 ⟨?_, List.pairwise_cons.2 ⟨first, ordered⟩⟩
      exact List.forall_mem_cons.2 ⟨before, fun z hz => before.trans (first z hz)⟩
    · next older =>
      have before : Precedes created id y x := by
        refine .inl (Std.OrientedCmp.lt_of_gt ?_)
        cases order : compare (created x) (created y) <;> simp_all
      refine List.pairwise_cons.2 ⟨fun z hz => ?_, ih below ordered⟩
      rcases List.mem_cons.1 ((insertByAge_perm x rest).mem_iff.1 hz) with rfl | hz
      · exact before
      · exact first z hz

theorem pairwise_oldestFirst {xs : List α}
    (ascending : xs.Pairwise (fun a b => compare (id a) (id b) = .lt)) :
    (oldestFirst created xs).Pairwise (Precedes created id) := by
  induction xs with
  | nil => exact .nil
  | cons x rest ih =>
    obtain ⟨below, ascending⟩ := List.pairwise_cons.1 ascending
    exact pairwise_insertByAge
      (fun y hy => below y ((oldestFirst_perm rest).mem_iff.1 hy)) (ih ascending)

/-- There is one way to put elements in order. -/
theorem eq_of_perm_of_precedes {xs ys : List α} (perm : xs.Perm ys)
    (hx : xs.Pairwise (Precedes created id)) (hy : ys.Pairwise (Precedes created id)) : xs = ys :=
  perm.eq_of_pairwise (fun a _ _ _ hab hba => absurd (hab.trans hba) (Precedes.irrefl a)) hx hy

/-- What stands in the place of `x` once `new` is saved. -/
def LineItem.overwrittenBy (x new : LineItem) : LineItem := if x.id = new.id then new else x

@[simp] theorem LineItem.overwrittenBy_id (x new : LineItem) : (x.overwrittenBy new).id = x.id := by
  unfold overwrittenBy
  split
  · next here => exact here.symm
  · rfl

namespace Store
variable {s : Store} {shipmentId : ShipmentId}

theorem of_mem_lineItemsOf {item : LineItem} (mem : item ∈ s.lineItemsOf shipmentId) :
    (∃ id, s.lineItems.get? id = some item) ∧ item.shipmentId = shipmentId := by
  have h := (oldestFirst_perm _).mem_iff.1 mem
  simp only [List.mem_filter, decide_eq_true_eq] at h
  exact ⟨SortedMap.mem_values_iff.1 h.1, h.2⟩

theorem Filed.mem_lineItemsOf (filed : s.Filed) {item : LineItem} :
    item ∈ s.lineItemsOf shipmentId ↔
      s.lineItems.get? item.id = some item ∧ item.shipmentId = shipmentId := by
  rw [lineItemsOf, (oldestFirst_perm _).mem_iff, List.mem_filter,
    filed.lineItems.mem_values_iff, decide_eq_true_eq]

theorem Filed.pairwise_lineItemsOf (filed : s.Filed) :
    (s.lineItemsOf shipmentId).Pairwise (Precedes LineItem.createdAt LineItem.id) :=
  pairwise_oldestFirst (filed.lineItems.pairwise_values.filter _)

theorem Filed.nodup_lineItemsOf (filed : s.Filed) :
    ((s.lineItemsOf shipmentId).map LineItem.id).Nodup :=
  ((oldestFirst_perm _).map _).nodup_iff.2
    (filed.lineItems.nodup_keys.sublist (List.filter_sublist.map _))

/-- The old item under the id of the new one is of the same shipment and time. -/
structure Succeeds (s : Store) (old new : LineItem) : Prop where
  stored : s.lineItems.get? new.id = some old
  shipmentId : new.shipmentId = old.shipmentId
  createdAt : new.createdAt = old.createdAt

namespace Succeeds
variable {old new x : LineItem}

theorem overwrittenBy_cases (succeeds : s.Succeeds old new)
    (found : s.lineItems.get? x.id = some x) :
    (x = old ∧ x.overwrittenBy new = new) ∨ x.overwrittenBy new = x := by
  unfold LineItem.overwrittenBy
  split
  · next here =>
    rw [here, succeeds.stored] at found
    exact .inl ⟨(Option.some.inj found).symm, rfl⟩
  · exact .inr rfl

theorem shipmentId_eq (succeeds : s.Succeeds old new) (found : s.lineItems.get? x.id = some x) :
    (x.overwrittenBy new).shipmentId = x.shipmentId := by
  rcases succeeds.overwrittenBy_cases found with ⟨rfl, same⟩ | same
  · rw [same, succeeds.shipmentId]
  · rw [same]

theorem createdAt_eq (succeeds : s.Succeeds old new) (found : s.lineItems.get? x.id = some x) :
    (x.overwrittenBy new).createdAt = x.createdAt := by
  rcases succeeds.overwrittenBy_cases found with ⟨rfl, same⟩ | same
  · rw [same, succeeds.createdAt]
  · rw [same]

theorem get?_saveLineItem (succeeds : s.Succeeds old new) (filed : s.Filed) (id : LineItemId) :
    (s.saveLineItem new).lineItems.get? id = (s.lineItems.get? id).map (·.overwrittenBy new) := by
  rw [saveLineItem, SortedMap.get?_insert]
  split
  · next here =>
    rw [here, succeeds.stored, Option.map_some, LineItem.overwrittenBy,
      if_pos (filed.lineItems succeeds.stored)]
  · next there =>
    cases found : s.lineItems.get? id with
    | none => rfl
    | some x =>
      rw [Option.map_some, LineItem.overwrittenBy, filed.lineItems found, if_neg there]

theorem mem_lineItemsOf_saveLineItem (succeeds : s.Succeeds old new) (filed : s.Filed) :
    x ∈ (s.saveLineItem new).lineItemsOf shipmentId ↔
      x ∈ (s.lineItemsOf shipmentId).map (·.overwrittenBy new) := by
  rw [(filed.saveLineItem new).mem_lineItemsOf, succeeds.get?_saveLineItem filed, List.mem_map,
    Option.map_eq_some_iff]
  constructor
  · rintro ⟨⟨y, found, rfl⟩, owner⟩
    rw [LineItem.overwrittenBy_id] at found
    exact ⟨y, filed.mem_lineItemsOf.2 ⟨found, succeeds.shipmentId_eq found ▸ owner⟩, rfl⟩
  · rintro ⟨y, mem, rfl⟩
    obtain ⟨found, owner⟩ := filed.mem_lineItemsOf.1 mem
    rw [LineItem.overwrittenBy_id]
    exact ⟨⟨y, found, rfl⟩, (succeeds.shipmentId_eq found).trans owner⟩

/-- The new item stands where the old one stood. -/
theorem lineItemsOf_saveLineItem (succeeds : s.Succeeds old new) (filed : s.Filed) :
    (s.saveLineItem new).lineItemsOf shipmentId =
      (s.lineItemsOf shipmentId).map (·.overwrittenBy new) := by
  have filed' : (s.saveLineItem new).Filed := filed.saveLineItem new
  have distinct : ((s.lineItemsOf shipmentId).map (·.overwrittenBy new)).Nodup := by
    have ids : LineItem.id ∘ (·.overwrittenBy new) = LineItem.id :=
      funext fun x => LineItem.overwrittenBy_id x new
    refine List.Nodup.of_map LineItem.id ?_
    rw [List.map_map, ids]
    exact filed.nodup_lineItemsOf
  refine eq_of_perm_of_precedes ?_ filed'.pairwise_lineItemsOf ?_
  · refine (List.perm_ext_iff_of_nodup filed'.nodup_lineItemsOf.of_map distinct).2 fun x => ?_
    exact succeeds.mem_lineItemsOf_saveLineItem filed
  · refine List.pairwise_map.2 (filed.pairwise_lineItemsOf.imp_of_mem fun memA memB before => ?_)
    rwa [Precedes, succeeds.createdAt_eq (filed.mem_lineItemsOf.1 memA).1,
      succeeds.createdAt_eq (filed.mem_lineItemsOf.1 memB).1, LineItem.overwrittenBy_id,
      LineItem.overwrittenBy_id]

end Succeeds

theorem of_mem_sitsOf {sit : Sit} (mem : sit ∈ s.sitsOf shipmentId) :
    (∃ id, s.sits.get? id = some sit) ∧ sit.shipmentId = shipmentId := by
  have h := (oldestFirst_perm _).mem_iff.1 mem
  simp only [List.mem_filter, decide_eq_true_eq] at h
  exact ⟨SortedMap.mem_values_iff.1 h.1, h.2⟩

theorem Filed.mem_sitsOf (filed : s.Filed) {sit : Sit} :
    sit ∈ s.sitsOf shipmentId ↔ s.sits.get? sit.id = some sit ∧ sit.shipmentId = shipmentId := by
  rw [sitsOf, (oldestFirst_perm _).mem_iff, List.mem_filter,
    filed.sits.mem_values_iff, decide_eq_true_eq]

theorem Filed.nodup_sitsOf (filed : s.Filed) : ((s.sitsOf shipmentId).map Sit.id).Nodup :=
  ((oldestFirst_perm _).map _).nodup_iff.2
    (filed.sits.nodup_keys.sublist (List.filter_sublist.map _))

end Store
end Haulage
