import Haulage.Proofs.Basket.UpToDate
import Haulage.Proofs.Footprint

/-! Whether a stay in storage is charged once: no two line items have the same SIT and the
same of its two codes, and the one that there is belongs to the SIT's shipment. A run
looks for the items of a stay among those of the shipment only, so all depends on which
shipment a SIT record names. -/
namespace Haulage

/-- The SIT and the code that the item charges it under, if it charges a stay. -/
def LineItem.stay? (item : LineItem) : Option (SitId × String) :=
  if item.tariffCode ∈ [sitFirstDayCode, sitAdditionalDaysCode] then
    item.sitId.map (·, item.tariffCode)
  else none

namespace LineItem
variable {item item' : LineItem} {stay : SitId × String}

theorem stay?_eq_some :
    item.stay? = some stay ↔ item.sitId = some stay.1 ∧ item.tariffCode = stay.2 ∧
      stay.2 ∈ [sitFirstDayCode, sitAdditionalDaysCode] := by
  obtain ⟨id, code⟩ := stay
  unfold stay?
  split
  · next known =>
    simp only [Option.map_eq_some_iff, Prod.mk.injEq]
    constructor
    · rintro ⟨_, tied, rfl, rfl⟩
      exact ⟨tied, rfl, known⟩
    · rintro ⟨tied, rfl, _⟩
      exact ⟨_, tied, rfl, rfl⟩
  · next unknown =>
    refine iff_of_false nofun ?_
    rintro ⟨_, rfl, known⟩
    exact unknown known

theorem stay?_congr (code : item'.tariffCode = item.tariffCode) (sit : item'.sitId = item.sitId) :
    item'.stay? = item.stay? := by
  simp only [stay?, code, sit]

theorem stay?_of_untied (untied : item.sitId = none) : item.stay? = none := by
  simp [stay?, untied]

theorem Requantified.stay?_eq (h : item.Requantified item') : item'.stay? = item.stay? :=
  stay?_congr h.tariffCode_eq h.sitId_eq

end LineItem

namespace Store
variable {s s' : Store} {id : LineItemId} {item : LineItem} {sit : Sit}

/-- Under this id the item charges no stay that another item charges, and none of a SIT
that is recorded for another shipment. -/
def AdmitsCharge (s : Store) (id : LineItemId) (item : LineItem) : Prop :=
  ∀ stay, item.stay? = some stay →
    (∀ key other, s.lineItems.get? key = some other → other.stay? = some stay → key = id) ∧
    ∀ sit, s.sits.get? stay.1 = some sit → item.shipmentId = sit.shipmentId

/-- Every charge for the stay of this record belongs to the shipment that it names. -/
def AdmitsSit (s : Store) (sit : Sit) : Prop :=
  ∀ key item code, s.lineItems.get? key = some item → item.stay? = some (sit.id, code) →
    item.shipmentId = sit.shipmentId

/-- Every stay is charged once, to the shipment of its SIT. -/
def StaysOnce (s : Store) : Prop :=
  ∀ id item, s.lineItems.get? id = some item → s.AdmitsCharge id item

theorem StaysOnce.mono (once : s.StaysOnce)
    (items : ∀ key item stay, s'.lineItems.get? key = some item → item.stay? = some stay →
      ∃ old, s.lineItems.get? key = some old ∧ old.stay? = some stay ∧
        item.shipmentId = old.shipmentId)
    (sits : ∀ id sit, s'.sits.get? id = some sit →
      ∃ old, s.sits.get? id = some old ∧ sit.shipmentId = old.shipmentId) : s'.StaysOnce := by
  intro id item stored stay charges
  obtain ⟨old, before, charged, owner⟩ := items id item stay stored charges
  obtain ⟨alone, owned⟩ := once id old before stay charged
  constructor
  · intro key other stored' charges'
    obtain ⟨other', before', charged', _⟩ := items key other stay stored' charges'
    exact alone key other' before' charged'
  · intro sit recorded
    obtain ⟨sit', recorded', sameOwner⟩ := sits _ sit recorded
    rw [owner, sameOwner, owned sit' recorded']

/-- A store that charges no stay. -/
theorem staysOnce_of_forall (none_ : ∀ e ∈ s.lineItems.entries, e.2.stay? = none) :
    s.StaysOnce := by
  intro id item stored stay charges
  rw [none_ _ (SortedMap.get?_eq_some_iff.1 stored)] at charges
  contradiction

theorem StaysOnce.of_sameStays (once : s.StaysOnce) (items : s'.lineItems = s.lineItems)
    (same : s.SameStays s') : s'.StaysOnce := by
  refine once.mono (fun key item stay stored charges => ?_) fun id sit recorded => ?_
  · exact ⟨item, items ▸ stored, charges, rfl⟩
  · have sameOwner := same id
    rw [recorded, Option.map_some, eq_comm, Option.map_eq_some_iff] at sameOwner
    obtain ⟨old, recorded', owner⟩ := sameOwner
    exact ⟨old, recorded', owner.symm⟩

theorem StaysOnce.saveLineItem_iff (once : s.StaysOnce) :
    (s.saveLineItem item).StaysOnce ↔ s.AdmitsCharge item.id item := by
  constructor
  · intro once' stay charges
    have here : (s.saveLineItem item).lineItems.get? item.id = some item := by
      rw [saveLineItem, SortedMap.get?_insert, if_pos rfl]
    obtain ⟨alone, owned⟩ := once' item.id item here stay charges
    refine ⟨fun key other stored charges' => ?_, owned⟩
    by_cases here : key = item.id
    · exact here
    · refine alone key other ?_ charges'
      rwa [saveLineItem, SortedMap.get?_insert, if_neg here]
  · intro admitted key other stored stay charges
    rw [saveLineItem, SortedMap.get?_insert] at stored
    split at stored
    · next here =>
      obtain rfl := Option.some.inj stored
      obtain ⟨alone, owned⟩ := admitted stay charges
      refine ⟨fun key' other' stored' charges' => ?_, owned⟩
      rw [saveLineItem, SortedMap.get?_insert] at stored'
      split at stored'
      · next here' => rw [here, here']
      · rw [here, alone key' other' stored' charges']
    · next there =>
      obtain ⟨alone, owned⟩ := once key other stored stay charges
      refine ⟨fun key' other' stored' charges' => ?_, owned⟩
      rw [saveLineItem, SortedMap.get?_insert] at stored'
      split at stored'
      · obtain rfl := Option.some.inj stored'
        exact absurd ((admitted stay charges').1 key other stored charges) there
      · exact alone key' other' stored' charges'

theorem StaysOnce.saveSit_iff (once : s.StaysOnce) :
    (s.saveSit sit).StaysOnce ↔ s.AdmitsSit sit := by
  constructor
  · intro once' key item code stored charges
    have recorded : (s.saveSit sit).sits.get? sit.id = some sit := by
      rw [saveSit, SortedMap.get?_insert, if_pos rfl]
    exact (once' key item stored (sit.id, code) charges).2 sit recorded
  · intro admitted key item stored stay charges
    obtain ⟨alone, owned⟩ := once key item stored stay charges
    refine ⟨alone, fun sit' recorded => ?_⟩
    rw [saveSit, SortedMap.get?_insert] at recorded
    split at recorded
    · next here =>
      obtain rfl := Option.some.inj recorded
      exact admitted key item stay.2 stored (here ▸ charges)
    · exact owned sit' recorded

/-- The stay is the shipment's, by the record of the SIT and by the items that charge it. -/
def StayOf (s : Store) (id : ShipmentId) (stay : SitId × String) : Prop :=
  (∀ sit, s.sits.get? stay.1 = some sit → sit.shipmentId = id) ∧
    ∀ key item, s.lineItems.get? key = some item → item.stay? = some stay → item.shipmentId = id

theorem StaysOnce.stayOf_of_charge (once : s.StaysOnce) {stay : SitId × String}
    (stored : s.lineItems.get? id = some item) (charges : item.stay? = some stay) :
    s.StayOf item.shipmentId stay := by
  obtain ⟨alone, owned⟩ := once id item stored stay charges
  refine ⟨fun sit recorded => (owned sit recorded).symm, fun key other stored' charges' => ?_⟩
  rw [alone key other stored' charges', stored] at stored'
  exact congrArg LineItem.shipmentId (Option.some.inj stored').symm

theorem StaysOnce.stayOf_of_sit (once : s.StaysOnce) (recorded : s.sits.get? sit.id = some sit)
    (code : String) : s.StayOf sit.shipmentId (sit.id, code) := by
  constructor
  · intro sit' recorded'
    exact congrArg Sit.shipmentId (Option.some.inj (recorded'.symm.trans recorded))
  · intro key item stored charges
    exact (once key item stored _ charges).2 sit recorded

end Store

namespace Basket
open LineItem (Requantified)
variable {scope : SitId × String → Prop} {items items' : List LineItem} {item : LineItem}
  {b : Basket} {t : RateTable} {ids : IdSupply} {shipmentId : ShipmentId} {now : Timestamp}
  {weight : Pounds} {miles : Miles} {sits : List Sit}

/-- No two of the items charge the same stay, and all stays that they charge are in scope. -/
structure ChargesOnce (scope : SitId × String → Prop) (items : List LineItem) : Prop where
  single : ∀ a ∈ items, ∀ b ∈ items, ∀ stay, a.stay? = some stay → b.stay? = some stay → a.id = b.id
  within : ∀ a ∈ items, ∀ stay, a.stay? = some stay → scope stay

theorem ChargesOnce.of_forall₂ (once : ChargesOnce scope items)
    (changed : items.Forall₂ Requantified items') : ChargesOnce scope items' where
  single a memA b memB stay chargesA chargesB := by
    obtain ⟨a', memA', sameA⟩ := exists_before changed memA
    obtain ⟨b', memB', sameB⟩ := exists_before changed memB
    rw [sameA.id_eq, sameB.id_eq]
    exact once.single a' memA' b' memB' stay (sameA.stay?_eq ▸ chargesA) (sameB.stay?_eq ▸ chargesB)
  within a memA stay charges := by
    obtain ⟨a', memA', sameA⟩ := exists_before changed memA
    exact once.within a' memA' stay (sameA.stay?_eq ▸ charges)

theorem ChargesOnce.append (once : ChargesOnce scope items)
    (alone : ∀ stay, item.stay? = some stay →
      scope stay ∧ ∀ a ∈ items, a.stay? ≠ some stay) : ChargesOnce scope (items ++ [item]) where
  single a memA b memB stay chargesA chargesB := by
    rcases List.mem_append.1 memA with oldA | newA <;>
      rcases List.mem_append.1 memB with oldB | newB
    · exact once.single a oldA b oldB stay chargesA chargesB
    · obtain rfl := List.mem_singleton.1 newB
      exact absurd chargesA ((alone stay chargesB).2 a oldA)
    · obtain rfl := List.mem_singleton.1 newA
      exact absurd chargesB ((alone stay chargesA).2 b oldB)
    · rw [List.mem_singleton.1 newA, List.mem_singleton.1 newB]
  within a memA stay charges := by
    rcases List.mem_append.1 memA with oldA | newA
    · exact once.within a oldA stay charges
    · obtain rfl := List.mem_singleton.1 newA
      exact (alone stay charges).1

/-- A refreshed basket charges the stays that it has charged, and those of its SITs. -/
theorem ChargesOnce.refreshed (once : ChargesOnce scope b.items)
    (own : ∀ sit ∈ sits, ∀ code, scope (sit.id, code)) :
    ChargesOnce scope (b.refreshed t ids shipmentId now weight miles sits).items := by
  refine refreshed_induction (fun changed kept => kept.of_forall₂ changed) ?_ ?_ once
  · intro items id category kept
    refine kept.append fun stay charges => ?_
    rw [LineItem.stay?_of_untied rfl] at charges
    contradiction
  · intro items id days sit mem code _ none_ kept
    refine kept.append fun stay charges => ?_
    obtain ⟨tied, coded, _⟩ := LineItem.stay?_eq_some.1 charges
    obtain rfl : stay = (sit.id, code) := Prod.ext (Option.some.inj tied).symm coded.symm
    refine ⟨own sit mem code, fun a memA also => none_ ?_⟩
    obtain ⟨tied', coded', _⟩ := LineItem.stay?_eq_some.1 also
    exact List.any_eq_true.2 ⟨a, memA, isSitItem_eq_true.2 ⟨tied', coded'⟩⟩

end Basket

namespace Recalculator
variable {r : Recalculator} {ids : IdSupply} {now : Timestamp} {shipment : Shipment}
  {weight : Pounds} {miles : Miles} {discount : DiscountRate} {s s' : Store}
  {report : RecalculationReport}

theorem chargesOnce_refreshBasket (filed : s.Filed) (once : s.StaysOnce) :
    Basket.ChargesOnce (s.StayOf shipment.id)
      (r.refreshBasket ids now shipment weight miles s).items := by
  refine Basket.ChargesOnce.refreshed ⟨?_, ?_⟩ ?_
  · intro a memA b memB stay chargesA chargesB
    obtain ⟨storedA, _⟩ := filed.mem_lineItemsOf.1 memA
    obtain ⟨storedB, _⟩ := filed.mem_lineItemsOf.1 memB
    exact (once _ b storedB stay chargesB).1 _ a storedA chargesA
  · intro a memA stay charges
    obtain ⟨stored, owner⟩ := filed.mem_lineItemsOf.1 memA
    exact owner ▸ once.stayOf_of_charge stored charges
  · intro sit mem code
    obtain ⟨recorded, owner⟩ := filed.mem_sitsOf.1 mem
    exact owner ▸ once.stayOf_of_sit recorded code

/-- No other shipment charges a stay of this one, so it is enough to look among its items. -/
theorem staysOnce_settle (filed : s.Filed) (once : s.StaysOnce) :
    (r.settle (r.refreshBasket ids now shipment weight miles s) shipment miles discount
      s).2.StaysOnce := by
  have charged : Basket.ChargesOnce (s.StayOf shipment.id)
    (r.refreshBasket ids now shipment weight miles s).items := chargesOnce_refreshBasket filed once
  have origin {key : LineItemId} {item : LineItem} {stay : SitId × String}
      (stored : (r.settle (r.refreshBasket ids now shipment weight miles s) shipment miles discount
        s).2.lineItems.get? key = some item) (charges : item.stay? = some stay) :
      (∃ old ∈ (r.refreshBasket ids now shipment weight miles s).items,
        old.id = key ∧ old.stay? = some stay ∧ item.shipmentId = shipment.id) ∨
      (s.lineItems.get? key = some item ∧ item.shipmentId ≠ shipment.id) := by
    have grows := r.refreshBasket_grows ids now shipment weight miles s
    rcases settle_get?_origin filed grows stored with ⟨old, mem, same, rfl⟩ | other
    · have owner : old.shipmentId = shipment.id := grown_shipmentId filed grows mem
      obtain ⟨_, _, repriced⟩ := (r.calculator.outcome shipment discount old).applyTo_eq old
      rw [Calculator.settledItem, repriced] at charges ⊢
      exact .inl ⟨old, mem, same, charges, owner⟩
    · exact .inr other
  intro key item stored stay charges
  rcases origin stored charges with ⟨old, mem, here, charges₀, owner⟩ | ⟨before, other⟩
  · obtain ⟨owned, theirs⟩ := charged.within old mem stay charges₀
    refine ⟨fun key' item' stored' charges' => ?_, fun sit recorded => ?_⟩
    · rcases origin stored' charges' with ⟨old', mem', here', charges₀', _⟩ | ⟨before', other'⟩
      · rw [← here, ← here', charged.single old mem old' mem' stay charges₀ charges₀']
      · exact absurd (theirs key' item' before' charges') other'
    · rw [settle_store] at recorded
      rw [owner, owned sit recorded]
  · obtain ⟨alone, owned⟩ := once key item before stay charges
    refine ⟨fun key' item' stored' charges' => ?_, fun sit recorded => ?_⟩
    · rcases origin stored' charges' with ⟨old', mem', _, charges₀', _⟩ | ⟨before', _⟩
      · exact absurd ((charged.within old' mem' stay charges₀').2 key item before charges) other
      · exact alone key' item' before' charges'
    · rw [settle_store] at recorded
      exact owned sit recorded

theorem staysOnce_run (filed : s.Filed) (once : s.StaysOnce)
    (h : r.run ids now shipment s = .ok (report, s')) : s'.StaysOnce := by
  obtain ⟨_, weight, _, _, miles, discount, linked, s₁, _, _, _, _, resolved, settled⟩ :=
    run_eq_ok.1 h
  have beside := resolveDiscount_beside resolved
  have once₁ : s₁.StaysOnce := once.of_sameStays beside.lineItems fun id => by
    rw [resolveDiscount_sits resolved]
  obtain rfl : _ = s' := congrArg Prod.snd settled
  exact staysOnce_settle (beside.filed filed) once₁

end Recalculator

theorem RequestForm.applyTo_keeps {form : RequestForm} {item item' : LineItem} {s s' : Store}
    (h : form.applyTo item s = .ok (item', s')) :
    item'.stay? = item.stay? ∧ ∀ id, s'.sits.get? id = s.sits.get? id := by
  have changes : s.ChangesOnly { dimensions := Set.univ, addresses := Set.univ } s' :=
    changesOnly_applyTo ⟨fun _ _ => trivial, fun _ _ => trivial⟩
      ⟨fun _ _ => trivial, fun _ _ => trivial⟩ h
  refine ⟨?_, fun id => changes.sits id (Set.notMem_empty id)⟩
  obtain ⟨_, _, _, _, _, _, _, _, rfl⟩ := applyTo_parts h
  rfl

/-- The updated item charges the stay that the old one does under the new code. -/
theorem Calculator.updateLineItem_stay {c : Calculator} {now : Timestamp} {id : LineItemId}
    {form : RequestForm} {new : LineItem} {s s' : Store} (filed : s.Filed)
    (h : c.updateLineItem now id form s = .ok (new, s')) :
    ∃ (old : LineItem) (side : Store), s.lineItems.get? id = some old ∧
      s' = side.saveLineItem new ∧ new.id = id ∧ new.shipmentId = old.shipmentId ∧
      new.stay? = LineItem.stay? { old with tariffCode := form.tariffCode } ∧
      side.lineItems = s.lineItems ∧ ∀ id, side.sits.get? id = s.sits.get? id := by
  obtain ⟨old, _, _, filled, side, stored, _, _, _, _, applied, repriced, rfl⟩ :=
    updateLineItem_iff.1 h
  obtain ⟨refilled, beside⟩ := RequestForm.applyTo_eq_ok applied
  obtain ⟨stay, sits⟩ := RequestForm.applyTo_keeps applied
  have sameId : old.id = id := filed.lineItems stored
  obtain ⟨_, _, _, _, rfl⟩ := reprice_eq repriced
  exact ⟨old, side, stored, rfl, refilled.id.trans sameId, refilled.shipmentId, stay,
    beside.lineItems, sits⟩

def SitOperation.KeepsStays (s : Store) : SitOperation → Prop
  | save sit _ => s.AdmitsSit sit
  | remove .. | approve .. | deny .. | placeIntoSit .. | deliver .. | release .. => True

/-- Only two operations can break the rule: a SIT record saved for another shipment than
its charges are for, and an update that makes a charge for a stay of an item that is tied
to the SIT under another code. -/
def Operation.KeepsStays (s : Store) : Operation → Prop
  | updateLineItem _ id form => ∀ old, s.lineItems.get? id = some old →
    s.AdmitsCharge id { old with tariffCode := form.tariffCode }
  | sit operation => operation.KeepsStays s
  | createRequest .. | approveLineItem .. | deleteLineItem .. | recalculate ..
  | deliverAndPrice .. => True

namespace Store
variable {s s' : Store}

theorem admitsCharge_congr {id : LineItemId} {item item' : LineItem}
    (items : s'.lineItems = s.lineItems) (sits : ∀ id, s'.sits.get? id = s.sits.get? id)
    (stay : item'.stay? = item.stay?) (owner : item'.shipmentId = item.shipmentId) :
    s'.AdmitsCharge id item' ↔ s.AdmitsCharge id item := by
  simp only [AdmitsCharge, items, sits, stay, owner]

theorem StaysOnce.eraseLineItem (once : s.StaysOnce) (id : LineItemId) :
    Store.StaysOnce { s with lineItems := s.lineItems.erase id } := by
  refine once.mono (fun key item stay stored charges => ?_) fun id sit recorded => ?_
  · rw [SortedMap.get?_erase] at stored
    split at stored
    · contradiction
    · exact ⟨item, stored, charges, rfl⟩
  · exact ⟨sit, recorded, rfl⟩

theorem StaysOnce.eraseSit (once : s.StaysOnce) (id : SitId) :
    Store.StaysOnce { s with sits := s.sits.erase id } := by
  refine once.mono (fun key item stay stored charges => ?_) fun id sit recorded => ?_
  · exact ⟨item, stored, charges, rfl⟩
  · rw [SortedMap.get?_erase] at recorded
    split at recorded
    · contradiction
    · exact ⟨sit, recorded, rfl⟩

theorem StaysOnce.changeSit {id : SitId} {action : Sit → Except Error Sit} {sit : Sit}
    (once : s.StaysOnce) (filed : s.Filed)
    (moves : ∀ {old new}, action old = .ok new → old.Moves new)
    (h : s.changeSit id action = .ok (sit, s')) : s'.StaysOnce := by
  obtain ⟨old, stored, moved, _, rfl⟩ := changeSit_eq_ok.1 h
  obtain ⟨sameId, sameOwner⟩ := (moves moved).continues
  refine once.of_sameStays rfl (sameStays_saveSit ?_)
  rw [sameId, filed.sits stored, stored, sameOwner, Option.map_some]

end Store

theorem SitOperation.staysOnce_iff {operation : SitOperation} {s s' : Store} {sit : Sit}
    (filed : s.Filed) (once : s.StaysOnce) (h : operation.run s = .ok (sit, s')) :
    s'.StaysOnce ↔ operation.KeepsStays s := by
  cases operation with
  | save new address =>
    obtain ⟨⟨sameId, sameOwner⟩, _, _, rfl⟩ := Store.saveSitWithAddress_eq_ok h
    have once₁ : (s.saveAddress address).StaysOnce := once.of_sameStays rfl fun _ => rfl
    rw [once₁.saveSit_iff, Store.AdmitsSit, sameId, sameOwner]
    rfl
  | remove id =>
    obtain ⟨_, _, rfl⟩ := Store.removeSit_eq_ok h
    exact iff_of_true (once.eraseSit sit.id) trivial
  | approve id start notes =>
    exact iff_of_true (once.changeSit filed Sit.moves_approve h) trivial
  | deny id notes => exact iff_of_true (once.changeSit filed Sit.moves_deny h) trivial
  | placeIntoSit id start =>
    exact iff_of_true (once.changeSit filed Sit.moves_placeIntoSit h) trivial
  | deliver id date => exact iff_of_true (once.changeSit filed Sit.moves_deliver h) trivial
  | release id date => exact iff_of_true (once.changeSit filed Sit.moves_release h) trivial

namespace Calculator
variable {c : Calculator} {now : Timestamp} {id : LineItemId} {form : RequestForm} {s s' : Store}
  {new : LineItem}

/-- A request is tied to no SIT. -/
theorem staysOnce_createRequest {shipmentId : ShipmentId} (once : s.StaysOnce)
    (h : c.createRequest id now shipmentId form s = .ok (new, s')) : s'.StaysOnce := by
  obtain ⟨_, _, side, _, _, applied, rfl⟩ := createRequest_iff.1 h
  obtain ⟨stay, sits⟩ := RequestForm.applyTo_keeps applied
  have beside := (RequestForm.applyTo_eq_ok applied).2
  have once₁ : side.StaysOnce := once.of_sameStays beside.lineItems fun id => by rw [sits]
  refine once₁.saveLineItem_iff.2 fun _ charges => ?_
  rw [stay, LineItem.stay?_of_untied rfl] at charges
  contradiction

theorem staysOnce_updateLineItem_iff (filed : s.Filed) (once : s.StaysOnce)
    (h : c.updateLineItem now id form s = .ok (new, s')) :
    s'.StaysOnce ↔ Operation.KeepsStays s (.updateLineItem now id form) := by
  obtain ⟨old, side, stored, rfl, sameId, owner, stay, items, sits⟩ := updateLineItem_stay filed h
  have once₁ : side.StaysOnce := once.of_sameStays items fun id => by rw [sits]
  rw [once₁.saveLineItem_iff, sameId, Store.admitsCharge_congr items sits stay owner]
  refine ⟨fun admitted old' stored' => ?_, fun keeps => keeps old stored⟩
  rwa [Option.some.inj (stored'.symm.trans stored)]

theorem staysOnce_approveLineItem (filed : s.Filed) (once : s.StaysOnce)
    (h : c.approveLineItem now id s = .ok (new, s')) : s'.StaysOnce := by
  obtain ⟨old, _, _, _, _, stored, rfl, rfl⟩ := approveLineItem_saves h
  rw [once.saveLineItem_iff, Store.admitsCharge_congr rfl (fun _ => rfl) rfl rfl]
  exact filed.lineItems stored ▸ once id old stored

theorem staysOnce_deleteLineItem (filed : s.Filed) (once : s.StaysOnce)
    (h : c.deleteLineItem id s = .ok (new, s')) : s'.StaysOnce := by
  obtain ⟨_, _, beside⟩ := deleteLineItem_eq_ok h
  have changes : s.ChangesOnly
      { lineItems := {id}, dimensions := Set.univ, addresses := Set.univ } s' :=
    changesOnly_deleteLineItem filed rfl
      (fun _ _ => ⟨fun _ _ => trivial, fun _ _ => trivial⟩) h
  refine (once.eraseLineItem new.id).of_sameStays beside.lineItems fun sit => ?_
  rw [changes.sits sit (Set.notMem_empty sit)]

end Calculator

namespace Services
variable {v : Services} {s s' : Store} {op : Operation}

/-- What the operation must keep to if it succeeds. -/
def KeepsStays (v : Services) (s : Store) (op : Operation) : Prop :=
  ∀ s', v.run s op = .ok s' → op.KeepsStays s

theorem staysOnce_of_run_iff (filed : s.Filed) (once : s.StaysOnce) (h : v.run s op = .ok s') :
    s'.StaysOnce ↔ op.KeepsStays s := by
  cases op with
  | createRequest id now shipmentId form =>
    obtain ⟨⟨item, _⟩, created, rfl⟩ := map_eq_ok.1 h
    exact iff_of_true (Calculator.staysOnce_createRequest once created) trivial
  | updateLineItem now id form =>
    obtain ⟨⟨item, _⟩, updated, rfl⟩ := map_eq_ok.1 h
    exact Calculator.staysOnce_updateLineItem_iff filed once updated
  | approveLineItem now id =>
    obtain ⟨⟨item, _⟩, approved, rfl⟩ := map_eq_ok.1 h
    exact iff_of_true (Calculator.staysOnce_approveLineItem filed once approved) trivial
  | deleteLineItem id =>
    obtain ⟨⟨item, _⟩, deleted, rfl⟩ := map_eq_ok.1 h
    exact iff_of_true (Calculator.staysOnce_deleteLineItem filed once deleted) trivial
  | sit operation =>
    obtain ⟨⟨sit, _⟩, changed, rfl⟩ := map_eq_ok.1 h
    exact SitOperation.staysOnce_iff filed once changed
  | recalculate ids now id =>
    obtain ⟨⟨report, _⟩, recalculated, rfl⟩ := map_eq_ok.1 h
    obtain ⟨shipment, _, ran⟩ := Recalculator.recalculate_eq_ok.1 recalculated
    exact iff_of_true (Recalculator.staysOnce_run filed once ran) trivial
  | deliverAndPrice ids now id date =>
    obtain ⟨⟨report, _⟩, done, rfl⟩ := map_eq_ok.1 h
    obtain ⟨old, shipment, delivered, _, _, leaving, ran⟩ := Recalculator.deliverAndPrice_iff.1 done
    have beside : s.Beside (delivered.foldl Store.saveSit s) :=
      Recalculator.beside_saveDelivered delivered
    have once₁ := once.of_sameStays beside.lineItems
      (Recalculator.sameStays_saveDelivered filed leaving)
    exact iff_of_true (Recalculator.staysOnce_run (beside.filed filed) once₁ ran) trivial

theorem staysOnce_commit_iff (filed : s.Filed) (once : s.StaysOnce) :
    (v.commit s op).StaysOnce ↔ v.KeepsStays s op :=
  commit_iff_of_run once fun _ => staysOnce_of_run_iff filed once

/-- In all stores that a run comes to, every stay is charged once, exactly if no operation
that succeeds in it breaks the rule. -/
theorem staysOnce_commitAll_iff (filed : s.Filed) (once : s.StaysOnce)
    (ops : List (Services × Operation)) :
    (∀ done, done <+: ops → (commitAll s done).StaysOnce) ↔ Along KeepsStays s ops := by
  have both : (∀ done, done <+: ops → (commitAll s done).Filed ∧ (commitAll s done).StaysOnce) ↔
      Along KeepsStays s ops := by
    refine commitAll_iff_along (P := fun s => s.Filed ∧ s.StaysOnce) ?_ ⟨filed, once⟩ ops
    rintro v s op ⟨filed, once⟩
    exact (and_iff_right (filed_commit filed)).trans (staysOnce_commit_iff filed once)
  rw [← both]
  exact forall₂_congr fun done _ => (and_iff_right (filed_commitAll filed done)).symm

/-- The record of a charged stay is saved with notes between two recalculations. -/
theorem staysOnce_commitAll_iff_sample :
    let ops : List (Services × Operation) :=
      [(Sample.services, .recalculate Sample.ids Sample.time (Sample.id 1)),
        (Sample.services, .sit (.save { Sample.sit with notes := some "Piano" } Sample.address)),
        (Sample.services, .recalculate Sample.laterIds Sample.time (Sample.id 1))]
    ((commitAll Sample.store ops).lineItems.values.filter (·.stay?.isSome)).length = 2 ∧
      ∀ done, done <+: ops → (commitAll Sample.store done).StaysOnce := by
  intro ops
  have once : Sample.store.StaysOnce := Store.staysOnce_of_forall (by decide +kernel)
  have owner : ∀ e ∈ (Sample.services.commit Sample.store
      (.recalculate Sample.ids Sample.time (Sample.id 1))).lineItems.entries,
      e.2.shipmentId = Sample.id 1 := by
    decide +kernel
  refine ⟨by decide +kernel,
    (staysOnce_commitAll_iff Sample.filed_store once ops).2 ⟨?_, ?_, ?_, trivial⟩⟩
  · exact fun _ _ => trivial
  · exact fun _ _ key item code stored _ => owner _ (SortedMap.get?_eq_some_iff.1 stored)
  · exact fun _ _ => trivial

/-- A stay that has been charged to one shipment is entered for another, which is then
recalculated and charged for it again. -/
theorem moved_stay_sample :
    let start := Sample.store.saveShipment Sample.otherShipment
    let ops : List (Services × Operation) :=
      [(Sample.services, .recalculate Sample.ids Sample.time (Sample.id 1)),
        (Sample.services, .sit (.save Sample.movedSit Sample.address)),
        (Sample.services, .recalculate Sample.laterIds Sample.time (Sample.id 2))]
    start.Filed ∧ start.StaysOnce ∧ Along (fun _ s op => op.IdsFresh s) start ops ∧
      (((commitAll start ops).lineItems.get? (Sample.id 16)).bind (·.stay?) =
        some (Sample.id 1, sitFirstDayCode)) ∧
      (((commitAll start ops).lineItems.get? (Sample.id 37)).bind (·.stay?) =
        some (Sample.id 1, sitFirstDayCode)) ∧
      ¬ (commitAll start ops).StaysOnce := by
  intro start ops
  have once : start.StaysOnce := Store.staysOnce_of_forall (by decide +kernel)
  have first : ((commitAll start ops).lineItems.get? (Sample.id 16)).bind (·.stay?) =
      some (Sample.id 1, sitFirstDayCode) := by decide +kernel
  have second : ((commitAll start ops).lineItems.get? (Sample.id 37)).bind (·.stay?) =
      some (Sample.id 1, sitFirstDayCode) := by decide +kernel
  refine ⟨Sample.filed_store.saveShipment _, once, ?_, first, second, fun once' => ?_⟩
  · exact ⟨⟨by decide +kernel, by decide +kernel⟩, trivial,
      ⟨by decide +kernel, by decide +kernel⟩, trivial⟩
  · obtain ⟨item, stored, charges⟩ := Option.bind_eq_some_iff.1 first
    obtain ⟨again, stored', charges'⟩ := Option.bind_eq_some_iff.1 second
    have same := (once' _ item stored _ charges).1 _ again stored' charges'
    exact absurd same (by decide)

end Services
end Haulage
