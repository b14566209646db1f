import Haulage.Proofs.Age
import Haulage.Proofs.Assignment
import Haulage.Proofs.Basket.Growth

/-! New ids. A recalculation draws a bounded number of them; where these are new to the
store, all items of the refreshed basket have ids of their own. -/
namespace Haulage

/-- How many ids a recalculation may draw: one for a grouping, one for each base charge
and two for each SIT of the shipment. -/
def Store.idDemand (s : Store) (id : ShipmentId) : Nat := 7 + 2 * (s.sitsOf id).length

/-- The ids that a recalculation may draw differ from each other, and no line item of the
store has one of them. -/
structure IdSupply.FreshFor (ids : IdSupply) (s : Store) (id : ShipmentId) : Prop where
  distinct : ∀ i < s.idDemand id, ∀ j < s.idDemand id, ids i = ids j → i = j
  lineItems : ∀ i < s.idDemand id, s.lineItems.get? ⟨ids i⟩ = none

instance (ids : IdSupply) (s : Store) (id : ShipmentId) : Decidable (ids.FreshFor s id) :=
  decidable_of_iff
    ((∀ i < s.idDemand id, ∀ j < s.idDemand id, ids i = ids j → i = j) ∧
      ∀ i < s.idDemand id, s.lineItems.get? ⟨ids i⟩ = none)
    ⟨fun h => ⟨h.1, h.2⟩, fun h => ⟨h.distinct, h.lineItems⟩⟩

theorem IdSupply.FreshFor.congr {ids : IdSupply} {s s' : Store} {id : ShipmentId}
    (fresh : ids.FreshFor s id) (demand : s'.idDemand id = s.idDemand id)
    (lineItems : s'.lineItems = s.lineItems) : ids.FreshFor s' id := by
  constructor
  · rw [demand]
    exact fresh.distinct
  · rw [demand, lineItems]
    exact fresh.lineItems

/-- An item that takes the place of another takes no id away. -/
theorem IdSupply.FreshFor.saveLineItem {ids : IdSupply} {s : Store} {id : ShipmentId}
    {old item : LineItem} (fresh : ids.FreshFor s id)
    (stored : s.lineItems.get? item.id = some old) : ids.FreshFor (s.saveLineItem item) id := by
  refine ⟨fresh.distinct, fun i bound => ?_⟩
  have unused : s.lineItems.get? ⟨ids i⟩ = none := fresh.lineItems i bound
  have other : (⟨ids i⟩ : LineItemId) ≠ item.id := by
    rintro same
    rw [same, stored] at unused
    contradiction
  rw [Store.saveLineItem, SortedMap.get?_insert, if_neg other, unused]

/-- The grouping that a carrier assignment may make takes an id that no item is given. -/
theorem IdSupply.FreshFor.resolveDiscount {ids : IdSupply} {s s' : Store} {r : Recalculator}
    {key : GroupingId} {shipment linked : Shipment} {discount : DiscountRate}
    (fresh : ids.FreshFor s shipment.id)
    (h : r.resolveDiscount key shipment s = .ok (discount, linked, s')) :
    ids.FreshFor s' linked.id := by
  rw [Recalculator.resolveDiscount_id h]
  rcases (Recalculator.resolveDiscount_frame h).2 with rfl | ⟨_, inserted⟩
  · exact fresh
  · obtain rfl := Store.insertGrouping_eq_ok inserted
    exact fresh.congr rfl rfl

namespace Store
variable {s : Store} {id : ShipmentId}

theorem Filed.mem_map_sitsOf (filed : s.Filed) {sitId : SitId} :
    sitId ∈ (s.sitsOf id).map Sit.id ↔ (s.sits.get? sitId).map Sit.shipmentId = some id := by
  rw [List.mem_map, Option.map_eq_some_iff]
  constructor
  · rintro ⟨sit, mem, rfl⟩
    exact ⟨sit, filed.mem_sitsOf.1 mem⟩
  · rintro ⟨sit, stored, owner⟩
    obtain rfl : sit.id = sitId := filed.sits stored
    exact ⟨sit, filed.mem_sitsOf.2 ⟨stored, owner⟩, rfl⟩

/-- The same SITs are recorded, each for the shipment that it was recorded for. -/
def SameStays (s s' : Store) : Prop :=
  ∀ id, (s'.sits.get? id).map Sit.shipmentId = (s.sits.get? id).map Sit.shipmentId

theorem sameStays_saveSit {sit : Sit}
    (stored : (s.sits.get? sit.id).map Sit.shipmentId = some sit.shipmentId) :
    s.SameStays (s.saveSit sit) := by
  intro id
  rw [saveSit, SortedMap.get?_insert]
  split
  · next same => rw [same, stored, Option.map_some]
  · rfl

/-- SITs take the places of others of their shipment. -/
theorem sameStays_saveSits {sits : List Sit}
    (stored : ∀ sit ∈ sits, (s.sits.get? sit.id).map Sit.shipmentId = some sit.shipmentId) :
    s.SameStays (sits.foldl Store.saveSit s) := by
  induction sits generalizing s with
  | nil => exact fun _ => rfl
  | cons sit rest ih =>
    obtain ⟨here, stored⟩ := List.forall_mem_cons.1 stored
    have first := sameStays_saveSit here
    have others : (s.saveSit sit).SameStays (rest.foldl Store.saveSit (s.saveSit sit)) :=
      ih fun sit' mem => (first sit'.id).trans (stored sit' mem)
    exact fun id => (others id).trans (first id)

theorem Filed.idDemand_congr {s' : Store} (filed : s.Filed) (filed' : s'.Filed)
    (same : s.SameStays s') : s'.idDemand id = s.idDemand id := by
  have perm : ((s'.sitsOf id).map Sit.id).Perm ((s.sitsOf id).map Sit.id) := by
    refine (List.perm_ext_iff_of_nodup filed'.nodup_sitsOf filed.nodup_sitsOf).2 fun sitId => ?_
    rw [filed'.mem_map_sitsOf, filed.mem_map_sitsOf, same]
  have sameLength : (s'.sitsOf id).length = (s.sitsOf id).length := by simpa using perm.length_eq
  rw [idDemand, idDemand, sameLength]

end Store

namespace Basket
variable {ids : IdSupply} {s : Store} {id : ShipmentId} {now : Timestamp} {t : RateTable}
  {weight : Pounds} {miles : Miles}

theorem exists_of_mem_created {made : LineItemId}
    (mem : made ∈ (refreshed t ids id now weight miles (s.sitsOf id)
      { items := s.lineItemsOf id, created := [] }).created) :
    ∃ i < s.idDemand id, made = ⟨ids i⟩ := by
  have bound := length_created_refreshed ids id now
    { items := s.lineItemsOf id, created := [] } t weight miles (s.sitsOf id)
  rw [(refreshed_grows _ t weight miles (s.sitsOf id)).created_eq_drawn rfl] at mem
  obtain ⟨i, inRange, rfl⟩ := List.mem_map.1 mem
  refine ⟨i + 1, ?_, rfl⟩
  have := List.mem_range.1 inRange
  simp only [List.length_nil] at bound
  unfold Store.idDemand
  omega

theorem get?_of_mem_created (fresh : ids.FreshFor s id) {made : LineItemId}
    (mem : made ∈ (refreshed t ids id now weight miles (s.sitsOf id)
      { items := s.lineItemsOf id, created := [] }).created) :
    s.lineItems.get? made = none := by
  obtain ⟨i, bound, rfl⟩ := exists_of_mem_created mem
  exact fresh.lineItems i bound

theorem nodup_created (fresh : ids.FreshFor s id) :
    (refreshed t ids id now weight miles (s.sitsOf id)
      { items := s.lineItemsOf id, created := [] }).created.Nodup := by
  have bound := length_created_refreshed ids id now
    { items := s.lineItemsOf id, created := [] } t weight miles (s.sitsOf id)
  simp only [List.length_nil] at bound
  rw [(refreshed_grows _ t weight miles (s.sitsOf id)).created_eq_drawn rfl]
  refine List.Nodup.map_on (fun i memI j memJ same => ?_) List.nodup_range
  have demandI : i + 1 < s.idDemand id := by
    have := List.mem_range.1 memI
    unfold Store.idDemand
    omega
  have demandJ : j + 1 < s.idDemand id := by
    have := List.mem_range.1 memJ
    unfold Store.idDemand
    omega
  have := fresh.distinct (i + 1) demandI (j + 1) demandJ (congrArg Id.uuid same)
  omega

/-- No two items of a refreshed basket share an id. -/
theorem nodup_ids (filed : s.Filed) (fresh : ids.FreshFor s id) :
    ((refreshed t ids id now weight miles (s.sitsOf id)
      { items := s.lineItemsOf id, created := [] }).items.map (·.id)).Nodup := by
  rw [(refreshed_grows _ t weight miles (s.sitsOf id)).ids_eq rfl]
  refine List.nodup_append.2 ⟨filed.nodup_lineItemsOf, nodup_created fresh, ?_⟩
  intro old memOld made memMade
  obtain ⟨item, memItem, rfl⟩ := List.mem_map.1 memOld
  rintro rfl
  have stored := (filed.mem_lineItemsOf.1 memItem).1
  rw [get?_of_mem_created fresh memMade] at stored
  contradiction

end Basket
end Haulage
