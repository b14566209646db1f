import Haulage.Proofs.SoundItems
import Haulage.Proofs.StayBilling

/-! Items that are charged by weight. A recalculation puts the weight of the shipment on every base
charge and, for every stay that is over, on the first item of each of its codes, and it does so
whether the weight is negative or not. Whatever else it writes is sound. So an operation leaves
sound items behind exactly if it puts no negative weight on an item. -/
namespace Haulage

namespace LineItem
variable {item : LineItem} {weight : Pounds}

/-- The item is at this weight, and sound but for that. -/
structure Weighs (weight : Pounds) (item : LineItem) : Prop where
  beside : item.SoundBeside
  weight : item.quantity1 = .ofUnits weight.val
  further : 0 ≤ item.quantity2.val

theorem Weighs.sound (weighs : item.Weighs weight)
    (nonneg : 0 ≤ (Quantity.ofUnits weight.val).val) : item.Sound :=
  sound_iff.2 ⟨weighs.beside, weighs.weight ▸ nonneg, weighs.further⟩

/-- An item that the system makes has nothing in it that could be negative. -/
theorem sound_approvedNow {id : LineItemId} {shipmentId : ShipmentId} {code : String}
    {location : LineItemLocation} {now : Timestamp} (named : isBlankText code = false) :
    (approvedNow id shipmentId code location now).Sound :=
  ⟨isEmpty_validate.2 ⟨named, Int64.le_refl 0, Int64.le_refl 0, nofun, nofun⟩, nofun⟩

end LineItem

namespace Basket
open LineItem (Requantified)
variable {t : RateTable} {ids : IdSupply} {shipmentId : ShipmentId} {now : Timestamp}
  {weight : Pounds} {miles : Miles} {sits : List Sit} {b c : Basket} {item : LineItem}
  {items items' : List LineItem} {sit : Sit} {days : Nat} {code : String}

/-- The first item of a SIT under a code. -/
def firstId (items : List LineItem) (sit : Sit) (code : String) : Option LineItemId :=
  (items.find? (isSitItem sit code)).map LineItem.id

/-- Among the items of a shipment with these SITs, this one is put at the shipment's weight: it is
a base charge, or the first item under one of the codes of a stay that is over. -/
def Weighed (t : RateTable) (sits : List Sit) (items : List LineItem) (item : LineItem) : Prop :=
  (t.baseCategory? item).isSome ∨
    ∃ sit ∈ sits, sit.chargeableDays?.isSome ∧
      ∃ code ∈ [sitFirstDayCode, sitAdditionalDaysCode], firstId items sit code = some item.id

theorem firstId_of_forall₂ (changed : items.Forall₂ Requantified items') :
    firstId items' sit code = firstId items sit code := by
  induction changed with
  | nil => rfl
  | @cons old item olds items h _ ih =>
    have same : isSitItem sit code item = isSitItem sit code old :=
      isSitItem_congr h.tariffCode_eq h.sitId_eq
    rw [firstId, firstId, List.find?_cons, List.find?_cons, same]
    split
    · exact congrArg some h.id_eq
    · exact ih

/-- What is first stays first, as new items are put at the end. -/
theorem Grows.firstId {key : LineItemId} (grows : Grows ids shipmentId now b c)
    (first : firstId b.items sit code = some key) : firstId c.items sit code = some key := by
  induction grows with
  | refl => exact first
  | refresh _ changed ih => exact (firstId_of_forall₂ changed).trans ih
  | make _ _ ih =>
    obtain ⟨old, found, same⟩ := Option.map_eq_some_iff.1 ih
    rw [Basket.firstId, push, List.find?_append, found, Option.some_or, Option.map_some, same]

theorem Weighed.mono (grows : Grows ids shipmentId now b c)
    (weighed : Weighed t sits b.items item) : Weighed t sits c.items item := by
  refine weighed.imp_right fun ⟨sit, mem, completed, code, known, first⟩ => ?_
  exact ⟨sit, mem, completed, code, known, grows.firstId first⟩

theorem weighs_withStay (few : days < twoTo 32) (beside : item.SoundBeside) :
    (withStay item sit weight days).Weighs weight := by
  refine ⟨⟨beside.valid, beside.price⟩, rfl, Int64.le_iff_toInt_le.2 ?_⟩
  rw [toInt_quantity2_withStay few]
  exact Int.mul_nonneg (Int.natCast_nonneg _) (by decide)

theorem weighs_withBaseQuantities {category : BaseCategory} (beside : item.SoundBeside) :
    (item.withBaseQuantities category weight miles).Weighs weight := by
  refine ⟨⟨beside.valid, beside.price⟩, rfl, ?_⟩
  rw [LineItem.withBaseQuantities]
  split
  · rw [Int64.le_iff_toInt_le, Quantity.toInt_ofUnits (Quantity.inRange_miles miles),
      Quantity.toInt_ofNat_miles]
    exact Int.mul_nonneg (Int.natCast_nonneg _) (by decide)
  · exact Int64.le_refl 0

/-- Each item is sound, or is weighed and sound but for its weight. -/
def SoundOrWeighed (t : RateTable) (weight : Pounds) (sits : List Sit) (items : List LineItem) :
    Prop :=
  ∀ item ∈ items, item.Sound ∨ item.Weighs weight ∧ Weighed t sits items item

theorem SoundOrWeighed.beside (before : SoundOrWeighed t weight sits items)
    (mem : item ∈ items) : item.SoundBeside := by
  rcases before item mem with sound | ⟨weighs, -⟩
  · exact (LineItem.sound_iff.1 sound).1
  · exact weighs.beside

theorem sound_addMissing (sound : ∀ item ∈ b.items, item.Sound) :
    ∀ item ∈ (b.addMissing t ids shipmentId now).items, item.Sound := by
  unfold addMissing
  generalize t.missingBaseCategories b.items = categories
  induction categories generalizing b with
  | nil => exact sound
  | cons category rest ih =>
    refine ih fun item mem => ?_
    rcases List.mem_append.1 mem with mem | mem
    · exact sound item mem
    · obtain rfl := List.mem_singleton.1 mem
      exact LineItem.sound_approvedNow (by cases category <;> decide)

theorem soundOrWeighed_refreshBase (sound : ∀ item ∈ b.items, item.Sound) :
    SoundOrWeighed t weight sits (b.refreshBase t weight miles).items := by
  intro item mem
  obtain ⟨old, memOld, rfl⟩ := List.mem_map.1 mem
  have beside := (LineItem.sound_iff.1 (sound old memOld)).1
  unfold RateTable.refreshBaseItem
  split
  · exact .inl (sound old memOld)
  · split
    · next category counted =>
      have base : (t.baseCategory? (old.withBaseQuantities category weight miles)).isSome := by
        have same : t.baseCategory? (old.withBaseQuantities category weight miles) =
            t.baseCategory? old := RateTable.baseCategory?_congr rfl rfl
        rw [same, counted]
        rfl
      exact .inr ⟨weighs_withBaseQuantities beside, .inl base⟩
    · exact .inl (sound old memOld)

/-- An item that is brought up to date for a stay, or made, is the first one under its code. -/
theorem mem_ensureSitItem (beside : ∀ old ∈ b.items, old.SoundBeside)
    (known : code ∈ [sitFirstDayCode, sitAdditionalDaysCode])
    (mem : item ∈ (ensureSitItem ids shipmentId now weight sit days b code).items) :
    item ∈ b.items ∨
      firstId (ensureSitItem ids shipmentId now weight sit days b code).items sit code =
        some item.id ∧
      ∃ drawn : LineItem, drawn.SoundBeside ∧ item = withStay drawn sit weight days := by
  unfold ensureSitItem at mem ⊢
  split at mem
  · next some_ =>
    rw [if_pos some_]
    rcases mem_modifyFirst mem with old | ⟨old, found, rfl⟩
    · exact .inl old
    · have memOld := List.mem_of_find?_eq_some found
      by_cases invoiced : old.isInvoiced
      · rw [refreshStay, if_pos invoiced]
        exact .inl memOld
      · refine .inr ⟨?_, old, beside old memOld, by rw [refreshStay, if_neg invoiced]⟩
        rw [firstId, find?_modifyFirst fun _ => isSitItem_refreshStay, found, Option.map_some,
          Option.map_some]
  · next none_ =>
    rw [if_neg none_]
    rcases List.mem_append.1 mem with mem | mem
    · exact .inl mem
    · obtain rfl := List.mem_singleton.1 mem
      have before : b.items.find? (isSitItem sit code) = none := by simpa using none_
      have here : isSitItem sit code
          (stayItem (b.nextId ids) shipmentId now weight sit days code) :=
        (isSitItem_stayItem _).2 ⟨rfl, rfl⟩
      have named : ∀ code ∈ [sitFirstDayCode, sitAdditionalDaysCode],
          isBlankText code = false := by
        decide
      set drawn := LineItem.approvedNow (b.nextId ids) shipmentId code
        sit.location.lineItemLocation now
      have sound : drawn.Sound := LineItem.sound_approvedNow (named code known)
      refine .inr ⟨?_, { drawn with sitId := some sit.id }, ⟨sound.valid, sound.price⟩, rfl⟩
      simp only [firstId, push, List.find?_append, before, Option.none_or, List.find?_singleton,
        here, if_true, Option.map_some]

theorem SoundOrWeighed.ensureSitItem (before : SoundOrWeighed t weight sits b.items)
    (mem : sit ∈ sits) (completed : sit.chargeableDays? = some days)
    (known : code ∈ [sitFirstDayCode, sitAdditionalDaysCode]) :
    SoundOrWeighed t weight sits
      (ensureSitItem ids shipmentId now weight sit days b code).items := by
  intro item memItem
  rcases mem_ensureSitItem (fun _ => before.beside) known memItem with
    old | ⟨first, drawn, beside, rfl⟩
  · exact (before item old).imp_right (And.imp_right (Weighed.mono
      (ensureSitItem_grows b weight sit days code)))
  · have completed_ : sit.chargeableDays?.isSome := by
      rw [completed]
      rfl
    exact .inr ⟨weighs_withStay (Sit.chargeableDays?_lt completed) beside,
      .inr ⟨sit, mem, completed_, code, known, first⟩⟩

theorem SoundOrWeighed.ensureSits {rest : List Sit} (within : ∀ sit ∈ rest, sit ∈ sits)
    (before : SoundOrWeighed t weight sits b.items) :
    SoundOrWeighed t weight sits (rest.foldl (ensureSit ids shipmentId now weight) b).items := by
  induction rest generalizing b with
  | nil => exact before
  | cons sit rest ih =>
    obtain ⟨mem, within⟩ := List.forall_mem_cons.1 within
    refine ih within ?_
    unfold ensureSit
    split
    · exact before
    · next days completed =>
      exact (before.ensureSitItem mem completed (by decide)).ensureSitItem mem completed (by decide)

/-- A recalculation of sound items has sound items, but for the weight of those that it weighs. -/
theorem soundOrWeighed_refreshed (sound : ∀ item ∈ b.items, item.Sound) :
    SoundOrWeighed t weight sits (b.refreshed t ids shipmentId now weight miles sits).items :=
  (soundOrWeighed_refreshBase (sound_addMissing sound)).ensureSits fun _ mem => mem

/-- What is weighed is at the weight, if it is not invoiced. -/
theorem quantity1_of_weighed (distinctSits : (sits.map Sit.id).Nodup)
    (distinct : ((b.refreshed t ids shipmentId now weight miles sits).items.map
      LineItem.id).Nodup)
    (mem : item ∈ (b.refreshed t ids shipmentId now weight miles sits).items)
    (weighed : Weighed t sits (b.refreshed t ids shipmentId now weight miles sits).items item)
    (opened : item.isInvoiced = false) : item.quantity1 = .ofUnits weight.val := by
  rcases weighed with base | ⟨sit, memSit, completed, code, known, first⟩
  · obtain ⟨category, counted⟩ := Option.isSome_iff_exists.1 base
    have current : t.refreshBaseItem weight miles item = item :=
      base_ensureSits base_refreshBase item mem
    rw [RateTable.refreshBaseItem, opened, if_neg Bool.false_ne_true, counted] at current
    rw [← current]
    rfl
  · obtain ⟨days, completed⟩ := Option.isSome_iff_exists.1 completed
    obtain ⟨old, found, current⟩ :
        Settled (b.refreshed t ids shipmentId now weight miles sits).items weight sit days code :=
      (staySettled_ensureSits distinctSits memSit).settled completed known
    rw [firstId, found, Option.map_some, Option.some.injEq] at first
    obtain rfl : old = item :=
      List.inj_on_of_nodup_map distinct (List.mem_of_find?_eq_some found) mem first
    rw [refreshStay, opened, if_neg Bool.false_ne_true] at current
    rw [← current]
    rfl

/-- Items that are read back in new prices are weighed as before. -/
theorem weighed_reprice {reprice : LineItem → LineItem} (reprices : Reprices reprice)
    (ordered : StaysInOrder items) (perm : items'.Perm (items.map reprice))
    (ordered' : items'.Pairwise (Precedes LineItem.createdAt LineItem.id)) :
    Weighed t sits items' (reprice item) ↔ Weighed t sits items item := by
  have sameId : ∀ item, (reprice item).id = item.id := reprices.keeps fun _ _ _ => rfl
  have first (sit : Sit) (code : String) : firstId items' sit code = firstId items sit code := by
    rw [firstId, firstId, ← List.head?_filter,
      filter_isSitItem_reprice reprices ordered perm ordered', List.head?_map, List.head?_filter,
      Option.map_map]
    exact congrArg (Option.map · _) (funext sameId)
  have base : t.baseCategory? (reprice item) = t.baseCategory? item :=
    reprices.keeps (fun _ _ _ => RateTable.baseCategory?_congr rfl rfl) item
  simp only [Weighed, base, first, sameId]

end Basket

namespace Recalculator
variable {r : Recalculator} {ids : IdSupply} {now : Timestamp} {shipment : Shipment}
  {weight : Pounds} {miles : Miles} {discount : DiscountRate} {s s' : Store} {basket : Basket}
  {report : RecalculationReport}

/-- What is put in the store is what has been priced. -/
theorem eachSound_settle (nonneg : r.calculator.RatesNonneg) (each : s.EachItem LineItem.Sound)
    (sound : ∀ item ∈ basket.items, item.isInvoiced = false → item.Sound) :
    (r.settle basket shipment miles discount s).2.EachItem LineItem.Sound := by
  intro key item stored
  rcases settle_get?_cases stored with ⟨old, mem, opened, -, rfl⟩ | ⟨stood, -⟩
  · exact Calculator.sound_settledItem nonneg (sound old mem opened)
  · exact each stood

theorem soundOrWeighed_refreshBasket (each : s.EachItem LineItem.Sound) :
    Basket.SoundOrWeighed r.calculator.rates weight (s.sitsOf shipment.id)
      (r.refreshBasket ids now shipment weight miles s).items := by
  refine Basket.soundOrWeighed_refreshed fun item mem => ?_
  obtain ⟨⟨key, stored⟩, -⟩ := Store.of_mem_lineItemsOf mem
  exact each stored

section Settled
variable (filed : s.Filed) (fresh : ids.FreshFor s shipment.id)
  (settled : (r.settle (r.refreshBasket ids now shipment weight miles s) shipment miles discount
    s).2 = s')
include filed fresh settled

theorem weighed_settledItem {item : LineItem} :
    Basket.Weighed r.calculator.rates (s'.sitsOf shipment.id) (s'.lineItemsOf shipment.id)
      (r.calculator.settledItem shipment discount item) ↔
      Basket.Weighed r.calculator.rates (s.sitsOf shipment.id)
        (r.refreshBasket ids now shipment weight miles s).items item := by
  have filed' : s'.Filed := settled ▸ filed_settle filed
  have sameSits : s'.sitsOf shipment.id = s.sitsOf shipment.id := by
    rw [← settled, settle_store]
    rfl
  rw [sameSits]
  exact Basket.weighed_reprice reprices_settledItem (staysInOrder_refreshBasket filed)
    (lineItemsOf_settled_perm filed fresh settled) filed'.pairwise_lineItemsOf

/-- A negative weight does no harm exactly if everything that it would be put on is invoiced. -/
theorem eachSound_settle_iff (nonneg : r.calculator.RatesNonneg)
    (each : s.EachItem LineItem.Sound) :
    s'.EachItem LineItem.Sound ↔ 0 ≤ (Quantity.ofUnits weight.val).val ∨
      ∀ item ∈ s'.lineItemsOf shipment.id, Basket.Weighed r.calculator.rates
        (s'.sitsOf shipment.id) (s'.lineItemsOf shipment.id) item → item.isInvoiced := by
  have perm := lineItemsOf_settled_perm filed fresh settled
  have sameInvoice : ∀ old, (r.calculator.settledItem shipment discount old).isInvoiced =
      old.isInvoiced := reprices_settledItem.keeps fun _ _ _ => rfl
  have sameQuantity : ∀ old, (r.calculator.settledItem shipment discount old).quantity1 =
      old.quantity1 := reprices_settledItem.keeps fun _ _ _ => rfl
  constructor
  · intro each'
    by_contra! negative
    obtain ⟨light, item, mem, weighed, opened⟩ := negative
    obtain ⟨old, memOld, rfl⟩ := List.mem_map.1 (perm.mem_iff.1 mem)
    rw [sameInvoice, ne_eq, Bool.not_eq_true] at opened
    have atWeight : old.quantity1 = .ofUnits weight.val :=
      Basket.quantity1_of_weighed filed.nodup_sitsOf (Basket.nodup_ids filed fresh) memOld
        ((weighed_settledItem filed fresh settled).1 weighed) opened
    obtain ⟨⟨key, stored⟩, -⟩ := Store.of_mem_lineItemsOf mem
    have least := (LineItem.sound_iff.1 (each' stored)).2.1
    rw [sameQuantity, atWeight] at least
    exact light least
  · intro harmless
    rw [← settled]
    refine eachSound_settle nonneg each fun old mem opened => ?_
    rcases soundOrWeighed_refreshBasket each old mem with sound | ⟨weighs, weighed⟩
    · exact sound
    · rcases harmless with heavy | invoiced
      · exact weighs.sound heavy
      · have invoiced := invoiced _ (perm.mem_iff.2 (List.mem_map_of_mem mem))
          ((weighed_settledItem filed fresh settled).2 weighed)
        rw [sameInvoice, opened] at invoiced
        contradiction

end Settled

/-- At a weight that is not negative a run leaves no negative number behind. -/
theorem eachSound_run (nonneg : r.calculator.RatesNonneg) (each : s.EachItem LineItem.Sound)
    (heavy : ∀ weight, shipment.netWeight = some weight → 0 ≤ (Quantity.ofUnits weight.val).val)
    (h : r.run ids now shipment s = .ok (report, s')) : s'.EachItem LineItem.Sound := by
  obtain ⟨_, weight, _, _, miles, discount, linked, s₁, weighed, _, _, _, resolved, settled⟩ :=
    run_eq_ok.1 h
  obtain rfl : _ = s' := congrArg Prod.snd settled
  have each₁ := each.beside (resolveDiscount_beside resolved)
  refine eachSound_settle nonneg each₁ fun item mem _ => ?_
  rcases soundOrWeighed_refreshBasket each₁ item mem with sound | ⟨weighs, -⟩
  · exact sound
  · exact weighs.sound (heavy weight weighed)

theorem eachSound_run_iff (filed : s.Filed) (fresh : ids.FreshFor s shipment.id)
    (nonneg : r.calculator.RatesNonneg) (each : s.EachItem LineItem.Sound)
    (weighed : shipment.netWeight = some weight)
    (h : r.run ids now shipment s = .ok (report, s')) :
    s'.EachItem LineItem.Sound ↔ 0 ≤ (Quantity.ofUnits weight.val).val ∨
      ∀ item ∈ s'.lineItemsOf shipment.id, Basket.Weighed r.calculator.rates
        (s'.sitsOf shipment.id) (s'.lineItemsOf shipment.id) item → item.isInvoiced := by
  obtain ⟨_, weight', _, _, miles, discount, linked, s₁, weighed', _, _, _, resolved, settled⟩ :=
    run_eq_ok.1 h
  obtain rfl := Option.some.inj (weighed'.symm.trans weighed)
  have beside := resolveDiscount_beside resolved
  have sameId : linked.id = shipment.id := resolveDiscount_id resolved
  rw [← sameId]
  exact eachSound_settle_iff (beside.filed filed) (fresh.resolveDiscount resolved)
    (congrArg Prod.snd settled) nonneg (each.beside beside)

end Recalculator
/-- The shipment that the operation recalculates, and its weight. -/
def Operation.weighs? (s : Store) : Operation → Option (ShipmentId × Pounds)
  | recalculate _ _ id | deliverAndPrice _ _ id _ =>
    ((s.shipments.get? id).bind (·.netWeight)).map (id, ·)
  | createRequest .. | updateLineItem .. | approveLineItem .. | deleteLineItem .. | sit _ => none

/-- The operation puts no negative weight on an item. -/
def Operation.WeighsNonneg (s : Store) (op : Operation) : Prop :=
  ∀ id weight, op.weighs? s = some (id, weight) → 0 ≤ (Quantity.ofUnits weight.val).val

namespace Services
variable {v : Services} {s s' : Store} {op : Operation} {data data' : ReferenceData}

/-- If the operation succeeds, the weight that it puts on items is not negative, or all the items
that it would be put on are invoiced, and so are left as they were. -/
def WeighsSoundly (v : Services) (s : Store) (op : Operation) : Prop :=
  ∀ s' id weight, v.run s op = .ok s' → op.weighs? s = some (id, weight) →
    0 ≤ (Quantity.ofUnits weight.val).val ∨
      ∀ item ∈ s'.lineItemsOf id, Basket.Weighed v.recalculator.calculator.rates (s'.sitsOf id)
        (s'.lineItemsOf id) item → item.isInvoiced

/-- A request weighs nothing. -/
theorem weighsNonneg_of_request (request : ¬ op.Recalculates) : op.WeighsNonneg s := by
  intro id weight known
  cases op with
  | recalculate | deliverAndPrice => exact absurd trivial request
  | createRequest | updateLineItem | approveLineItem | deleteLineItem | sit => contradiction

theorem weighsSoundly_of_nonneg (nonneg : op.WeighsNonneg s) : v.WeighsSoundly s op :=
  fun _ id weight _ known => .inl (nonneg id weight known)

theorem weighsSoundly_iff {id : ShipmentId} {weight : Pounds} (h : v.run s op = .ok s')
    (known : op.weighs? s = some (id, weight)) :
    v.WeighsSoundly s op ↔ 0 ≤ (Quantity.ofUnits weight.val).val ∨
      ∀ item ∈ s'.lineItemsOf id, Basket.Weighed v.recalculator.calculator.rates (s'.sitsOf id)
        (s'.lineItemsOf id) item → item.isInvoiced := by
  constructor
  · exact fun soundly => soundly s' id weight h known
  · intro harmless s'' id' weight' ran known'
    obtain rfl := Except.ok.inj (h.symm.trans ran)
    obtain ⟨rfl, rfl⟩ := Prod.mk.inj (Option.some.inj (known.symm.trans known'))
    exact harmless

theorem ran_of_recalculates (recalculates : op.Recalculates) (h : v.run s op = .ok s') :
    ∃ id ids now shipment weight side report, op.weighs? s = some (id, weight) ∧
      shipment.netWeight = some weight ∧ s.Beside side ∧ (s.Filed → shipment.id = id) ∧
      (s.Filed → op.IdsFresh s → ids.FreshFor side id) ∧
      v.recalculator.run ids now shipment side = .ok (report, s') := by
  cases op with
  | recalculate ids now id =>
    cases step_of_run h with
    | @recalculate _ _ _ shipment report _ stored ran =>
      obtain ⟨_, weight, _, _, _, _, _, _, weighed, -⟩ := Recalculator.run_eq_ok.1 ran
      refine ⟨id, ids, now, shipment, weight, s, report, ?_, weighed, .refl s, ?_, ?_, ran⟩
      · rw [Operation.weighs?, stored, Option.bind_some, weighed, Option.map_some]
      · exact fun filed => filed.shipments stored
      · exact fun _ fresh => fresh
  | deliverAndPrice ids now id date =>
    cases step_of_run h with
    | @deliver _ _ _ _ old shipment side _ report stored left beside demand ran =>
      obtain ⟨_, weight, _, _, _, _, _, _, weighed, -⟩ := Recalculator.run_eq_ok.1 ran
      obtain ⟨-, moved⟩ := Shipment.deliver_eq_ok left
      refine ⟨id, ids, now, shipment, weight, side, report, ?_, weighed, beside, ?_, ?_, ran⟩
      · rw [moved] at weighed
        rw [Operation.weighs?, stored, Option.bind_some, weighed, Option.map_some]
      · intro filed
        rw [moved, ← filed.shipments stored]
      · exact fun filed fresh => IdSupply.FreshFor.congr fresh (demand filed) beside.lineItems
  | createRequest | updateLineItem | approveLineItem | deleteLineItem | sit => contradiction

theorem eachSound_commit (accepted : RateTable.ofReference data = .ok v.calculator.rates)
    (accepted' : RateTable.ofReference data' = .ok v.recalculator.calculator.rates)
    (each : s.EachItem LineItem.Sound) (nonneg : op.WeighsNonneg s) :
    (v.commit s op).EachItem LineItem.Sound := by
  refine commit_of_run each fun s' h => ?_
  by_cases recalculates : op.Recalculates
  · obtain ⟨id, _, _, shipment, weight, side, _, known, weighed, beside, _, _, ran⟩ :=
      ran_of_recalculates recalculates h
    refine Recalculator.eachSound_run (Calculator.ratesNonneg_of_accepted accepted')
      (each.beside beside) (fun weight' weighed' => ?_) ran
    obtain rfl := Option.some.inj (weighed'.symm.trans weighed)
    exact nonneg id weight' known
  · exact eachSound_of_request (Calculator.ratesNonneg_of_accepted accepted) recalculates each h

/-- From sound items, all operations one after the other lead to sound items, as long as none of
them recalculates a shipment of negative weight. -/
theorem eachSound_commitAll {ops : List (Services × Operation)}
    (along : Along (fun v s op => (∃ data, RateTable.ofReference data = .ok v.calculator.rates) ∧
      (∃ data, RateTable.ofReference data = .ok v.recalculator.calculator.rates) ∧
      op.WeighsNonneg s) s ops) (each : s.EachItem LineItem.Sound) :
    (commitAll s ops).EachItem LineItem.Sound := by
  induction ops generalizing s with
  | nil => exact each
  | cons op rest ih =>
    obtain ⟨⟨⟨_, accepted⟩, ⟨_, accepted'⟩, nonneg⟩, later⟩ := along
    exact ih later (eachSound_commit accepted accepted' each nonneg)

/-- With accepted rate tables, an operation keeps all items sound if it recalculates no shipment of
negative weight. In a filed store it keeps them sound exactly if the weight is not negative, or all
items that it would be put on are invoiced. -/
theorem soundItems_commit (accepted : RateTable.ofReference data = .ok v.calculator.rates)
    (accepted' : RateTable.ofReference data' = .ok v.recalculator.calculator.rates)
    (each : s.EachItem LineItem.Sound) (op : Operation) :
    (op.WeighsNonneg s → (v.commit s op).EachItem LineItem.Sound) ∧
    (s.Filed → op.IdsFresh s →
      ((v.commit s op).EachItem LineItem.Sound ↔ v.WeighsSoundly s op)) := by
  refine ⟨eachSound_commit accepted accepted' each, fun filed fresh => ?_⟩
  by_cases recalculates : op.Recalculates
  · refine (commit_iff_of_run (K := v.WeighsSoundly s op) each fun s' h => ?_).trans
      ⟨fun all s' id weight ran => all s' ran s' id weight ran, fun soundly _ _ => soundly⟩
    obtain ⟨id, _, _, shipment, weight, side, _, known, weighed, beside, here, unused, ran⟩ :=
      ran_of_recalculates recalculates h
    obtain rfl := here filed
    rw [weighsSoundly_iff h known]
    exact Recalculator.eachSound_run_iff (beside.filed filed) (unused filed fresh)
      (Calculator.ratesNonneg_of_accepted accepted') (each.beside beside) weighed ran
  · have nonneg : op.WeighsNonneg s := weighsNonneg_of_request recalculates
    exact iff_of_true (eachSound_commit accepted accepted' each nonneg)
      (weighsSoundly_of_nonneg nonneg)

/-- A shipment is recalculated at its weight. Then it is so at a negative weight, but all its base
charges are invoiced. -/
theorem soundItems_commit_sample :
    let light : Shipment := { Sample.shipment with netWeight := some ⟨-4000⟩ }
    let invoiced : List LineItem := BaseCategory.all.mapIdx fun i category =>
      { LineItem.base (Sample.id i) (Sample.id 1) category Sample.time with
        invoiceId := some (Sample.id 1) }
    let records : Records :=
      { Sample.records with shipments := [light], lineItems := invoiced, sits := [] }
    let s := (Store.ofRecords records).toOption.getD default
    let op := .recalculate Sample.ids Sample.time (Sample.id 1)
    (Sample.services.run Sample.store op).toOption.isSome ∧
      (Sample.services.commit Sample.store op).EachItem LineItem.Sound ∧
      (Sample.services.run s op).toOption.isSome ∧
      op.weighs? s = some (Sample.id 1, ⟨-4000⟩) ∧
      (Sample.services.commit s op).EachItem LineItem.Sound := by
  intro light invoiced records s op
  have accepted : RateTable.ofReference Sample.reference = .ok Sample.rates := rfl
  have each (s : Store) (all : ∀ e ∈ s.lineItems.entries, e.2.Sound) :
      s.EachItem LineItem.Sound := Store.eachItem_of_forall all
  have heavy : op.WeighsNonneg Sample.store := by
    intro id weight known
    obtain ⟨rfl, rfl⟩ := Prod.mk.inj (Option.some.inj known)
    decide
  have filed : s.Filed := Store.filed_ofRecords (r := records) (by rfl)
  have fresh : op.IdsFresh s := show Sample.ids.FreshFor s (Sample.id 1) by decide +kernel
  have after : ∀ e ∈ (Sample.services.commit s op).lineItems.entries, e.2.isInvoiced := by
    decide +kernel
  have soundly : Sample.services.WeighsSoundly s op := by
    intro s' id weight ran _
    rw [commit_of_ok ran] at after
    refine .inr fun item mem _ => ?_
    obtain ⟨⟨key, stored⟩, -⟩ := Store.of_mem_lineItemsOf mem
    exact after _ (SortedMap.get?_eq_some_iff.1 stored)
  refine ⟨by decide +kernel, ?_, by decide +kernel, rfl, ?_⟩
  · exact (soundItems_commit (v := Sample.services) accepted accepted
      (each Sample.store (by decide +kernel)) op).1 heavy
  · exact ((soundItems_commit (v := Sample.services) accepted accepted
      (each s (by decide +kernel)) op).2 filed fresh).2 soundly

/-- A shipment of negative weight is recalculated with rates that are offered for any weight: its
linehaul item has a negative quantity, and a negative price. -/
theorem light_shipment_sample :
    let light : Shipment := { Sample.shipment with netWeight := some ⟨-4000⟩ }
    let data : ReferenceData :=
      { Sample.reference with
        rates := Sample.reference.rates.map ({ · with weightLower := -100000 }) }
    let s := Sample.store.saveShipment light
    let op := .recalculate Sample.ids Sample.time (Sample.id 1)
    ∃ v : Services, ∃ item, RateTable.ofReference data = .ok v.calculator.rates ∧
      RateTable.ofReference data = .ok v.recalculator.calculator.rates ∧ s.Filed ∧
      s.EachItem LineItem.Sound ∧
      (v.commit s op).lineItems.get? (Sample.id 11) = some item ∧
      item.quantity1.val < 0 ∧ (∃ amount ∈ item.amount, amount.val < 0) ∧
      ¬ (v.commit s op).EachItem LineItem.Sound := by
  intro light data s op
  let rates : RateTable := ⟨ReferenceData.itemIndex data.tariffItems,
    ReferenceData.rateIndex data.rates, data.rateAreas, data.regions⟩
  have accepted : RateTable.ofReference data = .ok rates :=
    RateTable.ofReference_eq_ok.2 ⟨by decide +kernel, rfl⟩
  let v : Services :=
    { calculator := { rates }
      recalculator := { Sample.recalculator with calculator := { rates } } }
  have given : ∃ item, (v.commit s op).lineItems.get? (Sample.id 11) = some item ∧
      item.quantity1.val < 0 ∧ ∃ amount ∈ item.amount, amount.val < 0 := by
    decide +kernel
  obtain ⟨item, stored, negative, debt⟩ := given
  refine ⟨v, item, accepted, accepted, Sample.filed_store.saveShipment light,
    Store.eachItem_of_forall (by decide +kernel), stored, negative, debt, fun each => ?_⟩
  exact Int64.not_lt.2 (LineItem.sound_iff.1 (each stored)).2.1 negative

end Services
end Haulage
