import Haulage.Proofs.Footprint

/-! A delivery is the same as its parts: the SITs at the destination delivered one after the
other, in any order, the shipment marked as delivered, and a recalculation. -/
namespace Haulage

namespace Store
variable {s s' : Store} {date : Date} {id : ShipmentId}

/-- Delivers the SITs of these ids one after the other. -/
def deliverEach (date : Date) (order : List SitId) (s : Store) : Except Error Store :=
  order.foldlM (fun s key => Prod.snd <$> s.deliverSit key date) s

/-- Each SIT is found as it stood before the others were delivered. -/
theorem deliverEach_iff {olds : List Sit}
    (stored : ∀ old ∈ olds, s.sits.get? old.id = some old) (leave : ∀ old ∈ olds, old.Leaves)
    (distinct : (olds.map (·.id)).Nodup) :
    s.deliverEach date (olds.map (·.id)) = .ok s' ↔
      (∀ sit ∈ olds.map (Sit.outOn date), sit.validate.isEmpty) ∧
        s' = (olds.map (Sit.outOn date)).foldl saveSit s := by
  induction olds generalizing s with
  | nil =>
    constructor
    · intro done
      exact ⟨by simp, (Except.ok.inj done).symm⟩
    · rintro ⟨-, rfl⟩
      rfl
  | cons old rest ih =>
    obtain ⟨here, stored⟩ := List.forall_mem_cons.1 stored
    obtain ⟨leaves, leave⟩ := List.forall_mem_cons.1 leave
    obtain ⟨apart, distinct⟩ := List.nodup_cons.1 distinct
    have stored' : ∀ other ∈ rest, (s.saveSit (old.outOn date)).sits.get? other.id =
        some other := by
      intro other mem
      have differs : other.id ≠ old.id := fun same => apart (List.mem_map.2 ⟨other, mem, same⟩)
      rw [saveSit, SortedMap.get?_insert, Sit.outOn_id, if_neg differs]
      exact stored other mem
    have first {s₁ : Store} : Prod.snd <$> s.deliverSit old.id date = .ok s₁ ↔
        (old.outOn date).validate.isEmpty ∧ s.saveSit (old.outOn date) = s₁ := by
      simp only [map_eq_ok, Prod.exists, deliverSit, changeSit_eq_ok, Sit.deliver_eq_ok, here]
      constructor
      · rintro ⟨_, _, ⟨_, ⟨⟩, ⟨_, rfl⟩, valid, rfl⟩, rfl⟩
        exact ⟨valid, rfl⟩
      · rintro ⟨valid, rfl⟩
        exact ⟨_, _, ⟨old, rfl, ⟨leaves, rfl⟩, valid, rfl⟩, rfl⟩
    simp only [deliverEach, List.map_cons, List.foldlM_cons, bind_eq_ok, first,
      List.forall_mem_cons, List.foldl_cons]
    constructor
    · rintro ⟨_, ⟨valid, rfl⟩, later⟩
      obtain ⟨valids, rfl⟩ := (ih stored' leave distinct).1 later
      exact ⟨⟨valid, valids⟩, rfl⟩
    · rintro ⟨⟨valid, valids⟩, rfl⟩
      exact ⟨_, ⟨valid, rfl⟩, (ih stored' leave distinct).2 ⟨valids, rfl⟩⟩

/-- Records of different SITs may be saved in any order. -/
theorem saveSits_perm {sits sits' : List Sit} (perm : sits.Perm sits')
    (distinct : (sits.map (·.id)).Nodup) :
    sits.foldl saveSit s = sits'.foldl saveSit s := by
  refine perm.foldl_eq' (fun x memX y memY s => ?_) s
  by_cases same : x.id = y.id
  · rw [List.inj_on_of_nodup_map distinct memX memY same]
  · simp only [saveSit, SortedMap.insert_comm s.sits x y same]

/-- The SITs that leave with the shipment. -/
def leavingOf (s : Store) (id : ShipmentId) : List Sit := (s.sitsOf id).filter fun sit => sit.Leaves

theorem Filed.mem_leavingOf (filed : s.Filed) {sit : Sit} :
    sit ∈ s.leavingOf id ↔ s.sits.get? sit.id = some sit ∧ sit.shipmentId = id ∧ sit.Leaves := by
  rw [leavingOf, List.mem_filter, filed.mem_sitsOf, decide_eq_true_eq, and_assoc]

theorem Filed.nodup_leavingOf (filed : s.Filed) : ((s.leavingOf id).map Sit.id).Nodup :=
  filed.nodup_sitsOf.sublist (List.filter_sublist.map _)

theorem Filed.mem_leavingSits (filed : s.Filed) {key : SitId} :
    key ∈ s.leavingSits id ↔ key ∈ (s.leavingOf id).map Sit.id := by
  rw [List.mem_map]
  constructor
  · rintro ⟨sit, stored, owner, leaves⟩
    obtain rfl := filed.sits stored
    exact ⟨sit, filed.mem_leavingOf.2 ⟨stored, owner, leaves⟩, rfl⟩
  · rintro ⟨sit, mem, rfl⟩
    exact ⟨sit, filed.mem_leavingOf.1 mem⟩

/-- A list of the SITs that leave, by their ids in any order, is such a list of the records. -/
theorem Filed.exists_perm_leavingOf (filed : s.Filed) {order : List SitId} (nodup : order.Nodup)
    (all : ∀ key, key ∈ order ↔ key ∈ s.leavingSits id) :
    ∃ olds : List Sit, olds.map Sit.id = order ∧ olds.Perm (s.leavingOf id) := by
  have perm : order.Perm ((s.leavingOf id).map Sit.id) := by
    rw [List.perm_ext_iff_of_nodup nodup filed.nodup_leavingOf]
    intro key
    rw [all, filed.mem_leavingSits]
  have records : List.Forall₂ (fun key sit => key = Sit.id sit) ((s.leavingOf id).map Sit.id)
      (s.leavingOf id) := by
    rw [List.forall₂_map_left_iff, List.forall₂_same]
    exact fun _ _ => rfl
  obtain ⟨olds, ids, perm⟩ := List.perm_comp_forall₂ perm records
  rw [← List.forall₂_map_right_iff (R := Eq), List.forall₂_eq_eq_eq] at ids
  exact ⟨olds, ids.symm, perm⟩

/-- One after the other, in any order, the SITs come to the same as all at once. -/
theorem Filed.deliverEach_iff (filed : s.Filed) {order : List SitId} (nodup : order.Nodup)
    (all : ∀ key, key ∈ order ↔ key ∈ s.leavingSits id) :
    s.deliverEach date order = .ok s' ↔
      ∃ delivered, Recalculator.deliverSits date (s.sitsOf id) = .ok delivered ∧
        s' = delivered.foldl Store.saveSit s := by
  obtain ⟨olds, rfl, perm⟩ := filed.exists_perm_leavingOf nodup all
  have facts : ∀ old ∈ olds, s.sits.get? old.id = some old ∧ old.shipmentId = id ∧ old.Leaves :=
    fun old mem => filed.mem_leavingOf.1 (perm.mem_iff.1 mem)
  have outPerm := perm.map (Sit.outOn date)
  have sameIds : (olds.map (Sit.outOn date)).map Sit.id = olds.map Sit.id := by
    simp [Function.comp_def]
  rw [Store.deliverEach_iff (fun old mem => (facts old mem).1) (fun old mem => (facts old mem).2.2)
    nodup, saveSits_perm outPerm (sameIds ▸ nodup)]
  simp only [Recalculator.deliverSits_iff, and_assoc, exists_eq_left, outPerm.mem_iff, leavingOf]

end Store

namespace Recalculator
variable {r : Recalculator} {ids : IdSupply} {now : Timestamp} {id : ShipmentId} {date : Date}
  {shipment linked : Shipment} {s s' : Store} {report : RecalculationReport}

/-- A settlement writes the shipment anew, whatever is stored of it. -/
theorem settle_saveShipment {basket : Basket} {miles : Miles} {discount : DiscountRate}
    {x : Shipment} (sameId : x.id = shipment.id) :
    r.settle basket shipment miles discount (s.saveShipment x) =
      r.settle basket shipment miles discount s := by
  have written (items : List LineItem) (linehaulCharge : Option FeeAndRate) :
      ((s.saveShipment x).saveLineItems items).saveShipment { shipment with linehaulCharge } =
        (s.saveLineItems items).saveShipment { shipment with linehaulCharge } := by
    simp only [Store.saveLineItems_eq, Store.saveShipment, sameId, SortedMap.insert_insert]
  simp only [settle, written]

theorem run_saveShipment {x : Shipment} (sameId : x.id = shipment.id) :
    r.run ids now shipment (s.saveShipment x) = r.run ids now shipment s := by
  have same : s.SameCarriers (s.saveShipment x) := ⟨rfl, rfl, rfl, rfl⟩
  apply SameFate.eq
  -- No step reads the stored shipment, and the settlement writes over it.
  unfold run
  split
  · exact .error _
  · refine .after _ fun weight _ => .after _ fun pickup _ => ?_
    refine .after _ fun delivery _ => .after _ fun miles _ => ?_
    refine (resolveDiscount_sameFate same).bind ?_
    rintro ⟨discount, linked, s₁⟩ ⟨discount', linked', t₁⟩ resolved resolved'
      ⟨sameRate, sameLink, same₁⟩
    obtain rfl : discount = discount' := sameRate.symm
    obtain rfl : linked = linked' := sameLink.symm
    have sameId' : x.id = linked.id := sameId.trans (resolveDiscount_id resolved).symm
    have saved : t₁ = s₁.saveShipment x := by
      rw [resolveDiscount_store resolved', resolveDiscount_store resolved, same₁.groupings,
        same₁.groupingIndex]
      rfl
    rw [saved]
    exact .ok (settle_saveShipment sameId')

/-- Saved and then recalculated, the shipment is priced as it was saved. -/
theorem recalculate_saveShipment (sameId : shipment.id = id) :
    r.recalculate ids now id (s.saveShipment shipment) = r.run ids now shipment s := by
  have stored : (s.saveShipment shipment).loadShipment id = .ok shipment := by
    rw [Store.loadShipment_eq_ok, Store.saveShipment, SortedMap.get?_insert, if_pos sameId.symm]
  rw [recalculate, stored]
  exact run_saveShipment rfl

end Recalculator

/-- A delivery is the delivery of the SITs that leave with the shipment, one after the other in
any order, and the recalculation of the shipment once it has been marked as delivered. With a
failure anywhere nothing at all is committed. -/
theorem Services.deliverAndPrice_iff_parts {v : Services} {ids : IdSupply} {now : Timestamp}
    {id : ShipmentId} {date : Date} {s s' : Store} {report : RecalculationReport}
    (filed : s.Filed) {order : List SitId} (nodup : order.Nodup)
    (all : ∀ key, key ∈ order ↔ key ∈ s.leavingSits id) :
    (v.recalculator.deliverAndPrice ids now id date s = .ok (report, s') ↔
      ∃ old s₁, s.shipments.get? id = some old ∧ old.status = .inTransit ∧
        s.deliverEach date order = .ok s₁ ∧
        v.recalculator.recalculate ids now id (s₁.saveShipment
          { old with status := .delivered, actualDeliveryDate := some date }) =
          .ok (report, s')) ∧
      ∀ e, v.recalculator.deliverAndPrice ids now id date s = .error e →
        v.commit s (.deliverAndPrice ids now id date) = s := by
  constructor
  · rw [Recalculator.deliverAndPrice_iff]
    constructor
    · rintro ⟨old, shipment, delivered, stored, left, sits, ran⟩
      obtain ⟨moving, rfl⟩ := Shipment.deliver_eq_ok left
      have sameId : old.id = id := filed.shipments stored
      refine ⟨old, delivered.foldl Store.saveSit s, stored, moving, ?_, ?_⟩
      · exact (filed.deliverEach_iff nodup all).2 ⟨delivered, sits, rfl⟩
      · rw [Recalculator.recalculate_saveShipment]
        · exact ran
        · exact sameId
    · rintro ⟨old, s₁, stored, moving, each, recalculated⟩
      have sameId : old.id = id := filed.shipments stored
      obtain ⟨delivered, sits, rfl⟩ := (filed.deliverEach_iff nodup all).1 each
      rw [Recalculator.recalculate_saveShipment] at recalculated
      · exact ⟨old, _, delivered, stored, if_pos moving, sits, recalculated⟩
      · exact sameId
  · intro e failed
    apply Services.commit_of_error (e := e)
    simp only [Services.run, failed]
    rfl

/-- Two SITs leave with the shipment, and the younger one is delivered first. -/
theorem Services.deliverAndPrice_iff_parts_sample :
    let stay (n : Nat) : Sit :=
      { Sample.sit with id := Sample.id n, status := .inSit, outDate := none }
    let s := ((Sample.onTheWay Sample.crating).saveSit (stay 2)).saveSit (stay 3)
    let date := Sample.day 19030
    let order : List SitId := [Sample.id 3, Sample.id 2]
    s.Filed ∧ (∀ key, key ∈ order ↔ key ∈ s.leavingSits (Sample.id 1)) ∧
      ∃ report s' old s₁,
        Sample.recalculator.deliverAndPrice Sample.ids Sample.time (Sample.id 1) date s =
          .ok (report, s') ∧
        s.shipments.get? (Sample.id 1) = some old ∧ old.status = .inTransit ∧
        s.deliverEach date order = .ok s₁ ∧
        Sample.recalculator.recalculate Sample.ids Sample.time (Sample.id 1) (s₁.saveShipment
          { old with status := .delivered, actualDeliveryDate := some date }) =
          .ok (report, s') := by
  intro stay s date order
  have filed : s.Filed := ((Sample.filed_onTheWay _).saveSit _).saveSit _
  have leaving : (s.leavingOf (Sample.id 1)).map Sit.id = [Sample.id 2, Sample.id 3] := by
    decide +kernel
  have all : ∀ key, key ∈ order ↔ key ∈ s.leavingSits (Sample.id 1) := by
    intro key
    rw [filed.mem_leavingSits, leaving]
    exact (List.Perm.swap _ _ _).mem_iff
  have succeeds : (Sample.recalculator.deliverAndPrice Sample.ids Sample.time (Sample.id 1) date
      s).toOption.isSome := by decide +kernel
  obtain ⟨⟨report, s'⟩, delivered⟩ := Option.isSome_iff_exists.1 succeeds
  have delivered := toOption_eq_some.1 delivered
  obtain ⟨old, s₁, parts⟩ :=
    (deliverAndPrice_iff_parts (v := Sample.services) filed (by decide) all).1.1 delivered
  exact ⟨filed, all, report, s', old, s₁, delivered, parts⟩

end Haulage
