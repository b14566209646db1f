import Haulage.Proofs.Idempotence
import Haulage.Proofs.Operation

/-! How often a shipment is charged for each base category. A run adds an item to the
categories that it finds missing. Those whose code needs pre-approval it always finds
missing, as no item of such a code counts as a base charge. -/
namespace Haulage

namespace BaseCategory

/-- An item of the category's code that is tied to no SIT, be it a base charge by the
tariff or a request. -/
def chargedBy (category : BaseCategory) (item : LineItem) : Bool :=
  item.tariffCode = category.code ∧ item.sitId = none

def chargeCount (category : BaseCategory) (items : List LineItem) : Nat :=
  items.countP category.chargedBy

variable {category other : BaseCategory} {item item' : LineItem} {items items' : List LineItem}

theorem mem_all (category : BaseCategory) : category ∈ all := by cases category <;> decide

theorem code_inj : category.code = other.code ↔ category = other := by
  cases category <;> cases other <;> decide

theorem index_inj : category.index = other.index ↔ category = other := by
  cases category <;> cases other <;> decide

theorem ofCode?_eq_some {code : String} : ofCode? code = some category ↔ category.code = code := by
  constructor
  · intro named
    simpa using List.find?_some named
  · rintro rfl
    cases category <;> decide

theorem chargedBy_iff :
    category.chargedBy item = true ↔ item.tariffCode = category.code ∧ item.sitId = none := by
  simp [chargedBy]

theorem chargedBy_congr (code : item'.tariffCode = item.tariffCode)
    (sit : item'.sitId = item.sitId) : category.chargedBy item' = category.chargedBy item := by
  simp only [chargedBy, code, sit]

theorem chargedBy_base (id : LineItemId) (shipmentId : ShipmentId) (now : Timestamp) :
    category.chargedBy (.base id shipmentId other now) = decide (other = category) := by
  simp [chargedBy, LineItem.base, LineItem.approvedNow, LineItem.submitted, code_inj]

theorem chargedBy_of_sit (stored : item.sitId.isSome) : category.chargedBy item = false := by
  rw [Bool.eq_false_iff]
  intro charged
  rw [(chargedBy_iff.1 charged).2] at stored
  contradiction

theorem chargeCount_of_forall₂ (changed : items.Forall₂ LineItem.Requantified items') :
    category.chargeCount items' = category.chargeCount items := by
  unfold chargeCount
  induction changed with
  | nil => rfl
  | cons h _ ih =>
    rw [List.countP_cons, List.countP_cons, ih, chargedBy_congr h.tariffCode_eq h.sitId_eq]

end BaseCategory

namespace RateTable
open BaseCategory
variable {t : RateTable} {category : BaseCategory} {item : LineItem} {items : List LineItem}

/-- The code of the category needs pre-approval. -/
def flags (t : RateTable) (category : BaseCategory) : Bool :=
  (t.items.get? category.code).any (·.requiresPreApproval)

theorem openBaseCodes_iff : t.OpenBaseCodes ↔ ∀ category, t.flags category = false := by
  unfold OpenBaseCodes flags
  constructor
  · intro openCodes category
    cases found : t.items.get? category.code with
    | none => rfl
    | some tariff => exact openCodes category (mem_all category) tariff found
  · intro unflagged category _ tariff found
    simpa [Option.mem_def.1 found] using unflagged category

theorem baseCategory?_eq_some :
    t.baseCategory? item = some category ↔
      category.chargedBy item = true ∧ t.flags category = false := by
  unfold baseCategory?
  cases named : ofCode? item.tariffCode with
  | none =>
    refine iff_of_false nofun ?_
    rintro ⟨charged, -⟩
    rw [ofCode?_eq_some.2 (chargedBy_iff.1 charged).1.symm] at named
    contradiction
  | some other =>
    have code := ofCode?_eq_some.1 named
    simp only [Option.ite_none_left_eq_some, Option.some.injEq, not_or, chargedBy_iff, ← code,
      code_inj, flags]
    constructor
    · rintro ⟨⟨untied, unflagged⟩, rfl⟩
      exact ⟨⟨rfl, by simpa using untied⟩, by simpa using unflagged⟩
    · rintro ⟨⟨rfl, untied⟩, unflagged⟩
      exact ⟨⟨by simp [untied], by simpa using unflagged⟩, rfl⟩

/-- The counters of different categories do not meet. -/
theorem baseCount_eq_count :
    t.baseCount items category = (items.filterMap t.baseCategory?).count category := by
  have counted (categories : List BaseCategory) (counts : Vector Nat all.length) :
      (categories.foldl (fun counts other => counts.set other.index (counts[other.index] + 1))
        counts)[category.index] = counts[category.index] + categories.count category := by
    induction categories generalizing counts with
    | nil => rfl
    | cons other rest ih =>
      rw [List.foldl_cons, ih, List.count_cons]
      by_cases same : other = category
      · subst same
        simp
        omega
      · simp [same, index_inj, Fin.val_inj]
  rw [baseCount, tally, counted]
  simp

/-- An item of a flagged code counts as no base charge. -/
theorem baseCount_eq :
    t.baseCount items category = if t.flags category then 0 else category.chargeCount items := by
  rw [baseCount_eq_count, List.count_filterMap]
  split
  · next flagged =>
    refine List.countP_eq_zero.2 fun item _ => ?_
    simp [baseCategory?_eq_some, flagged]
  · next unflagged =>
    refine List.countP_congr fun item _ => ?_
    simp [baseCategory?_eq_some, unflagged]

theorem mem_missingBaseCategories :
    category ∈ t.missingBaseCategories items ↔
      t.flags category ∨ category.chargeCount items = 0 := by
  rw [missingBaseCategories, List.mem_filter, decide_eq_true_eq, ← List.count_eq_zero,
    ← baseCount_eq_count, baseCount_eq]
  cases t.flags category <;> simp [mem_all]

theorem missingBaseCategories_eq_nil :
    t.missingBaseCategories items = [] ↔
      ∀ category, t.flags category = false ∧ category.chargeCount items ≠ 0 := by
  simp [List.eq_nil_iff_forall_not_mem, mem_missingBaseCategories]

theorem verifyBaseItems_eq_ok :
    t.verifyBaseItems items = .ok () ↔
      ∀ category, t.flags category = false ∧ category.chargeCount items = 1 := by
  unfold verifyBaseItems
  split
  · next none_ =>
    refine iff_of_true rfl fun category => ?_
    have one := List.find?_eq_none.1 none_ category (mem_all category)
    simpa [baseCount_eq, ite_eq_iff] using one
  · next category found =>
    refine iff_of_false nofun fun all => ?_
    have other := List.find?_some found
    simp [baseCount_eq, all category] at other

end RateTable

namespace Basket
open BaseCategory
variable {t : RateTable} {ids : IdSupply} {shipmentId : ShipmentId} {now : Timestamp} {b : Basket}
  {category : BaseCategory} {weight : Pounds} {miles : Miles} {sits : List Sit}

theorem chargeCount_push {item : LineItem} :
    category.chargeCount (b.push item).items =
      category.chargeCount b.items + if category.chargedBy item then 1 else 0 := by
  rw [push, chargeCount, List.countP_append, List.countP_singleton]
  rfl

/-- One item is added to each category that is missing, flagged ones included. -/
theorem chargeCount_addMissing :
    category.chargeCount (b.addMissing t ids shipmentId now).items =
      category.chargeCount b.items +
        if t.flags category ∨ category.chargeCount b.items = 0 then 1 else 0 := by
  have pushes (categories : List BaseCategory) (c : Basket) :
      category.chargeCount (categories.foldl
        (fun c other => c.push (.base (c.nextId ids) shipmentId other now)) c).items =
        category.chargeCount c.items + categories.count category := by
    induction categories generalizing c with
    | nil => rfl
    | cons other rest ih =>
      rw [List.foldl_cons, ih, chargeCount_push, chargedBy_base, List.count_cons]
      simp only [decide_eq_true_eq, beq_iff_eq]
      omega
  rw [addMissing, pushes]
  congr 1
  have distinct : (t.missingBaseCategories b.items).Nodup := (by decide : all.Nodup).filter _
  rw [distinct.count]
  simp only [RateTable.mem_missingBaseCategories]

theorem chargeCount_refreshBase :
    category.chargeCount (b.refreshBase t weight miles).items = category.chargeCount b.items :=
  chargeCount_of_forall₂ (forall₂_refreshBase b t weight miles)

theorem chargeCount_ensureSitItem {sit : Sit} {days : Nat} {code : String} :
    category.chargeCount (ensureSitItem ids shipmentId now weight sit days b code).items =
      category.chargeCount b.items := by
  unfold ensureSitItem
  split
  · exact chargeCount_of_forall₂ (forall₂_modifyFirst (requantified_refreshStay sit weight days) _)
  · rw [chargeCount_push, chargedBy_of_sit rfl, if_neg Bool.false_ne_true, Nat.add_zero]

theorem chargeCount_ensureSits :
    category.chargeCount (sits.foldl (ensureSit ids shipmentId now weight) b).items =
      category.chargeCount b.items := by
  induction sits generalizing b with
  | nil => rfl
  | cons sit rest ih =>
    rw [List.foldl_cons, ih, ensureSit]
    split
    · rfl
    · simp only [List.foldl_cons, List.foldl_nil, chargeCount_ensureSitItem]

/-- Of all steps of a recalculation, only the first makes base charges. -/
theorem chargeCount_refreshed :
    category.chargeCount (b.refreshed t ids shipmentId now weight miles sits).items =
      category.chargeCount b.items +
        if t.flags category ∨ category.chargeCount b.items = 0 then 1 else 0 := by
  rw [refreshed, chargeCount_ensureSits, chargeCount_refreshBase, chargeCount_addMissing]

end Basket

namespace Recalculator
open BaseCategory
variable {r : Recalculator} {t : RateTable} {ids : IdSupply} {now : Timestamp}
  {shipment : Shipment} {id : ShipmentId} {s s' s'' : Store} {report : RecalculationReport}
  {category : BaseCategory} {n : Nat}

theorem lineItems_of_run (h : r.run ids now shipment s = .ok (report, s')) :
    report.lineItems = s'.lineItemsOf shipment.id := by
  obtain ⟨_, weight, _, _, miles, discount, linked, s₁, _, _, _, _, resolved, settled⟩ :=
    run_eq_ok.1 h
  have stored : _ = s' := congrArg Prod.snd settled
  have told : _ = report := congrArg Prod.fst settled
  rw [← resolveDiscount_id resolved, ← stored, ← told]
  rfl

theorem chargeCount_run (filed : s.Filed) (fresh : ids.FreshFor s shipment.id)
    (h : r.run ids now shipment s = .ok (report, s')) :
    category.chargeCount (s'.lineItemsOf shipment.id) =
      category.chargeCount (s.lineItemsOf shipment.id) +
        if r.calculator.rates.flags category ∨
          category.chargeCount (s.lineItemsOf shipment.id) = 0 then 1 else 0 := by
  obtain ⟨_, weight, _, _, miles, discount, linked, s₁, _, _, _, _, resolved, settled⟩ :=
    run_eq_ok.1 h
  have sameItems : s₁.lineItemsOf linked.id = s.lineItemsOf shipment.id := by
    rw [resolveDiscount_id resolved, Store.lineItemsOf, (resolveDiscount_beside resolved).lineItems]
    rfl
  have fresh₁ := fresh.resolveDiscount resolved
  have filed₁ := (resolveDiscount_beside resolved).filed filed
  have perm := lineItemsOf_settled_perm filed₁ fresh₁ (congrArg Prod.snd settled)
  have blind : category.chargedBy ∘ r.calculator.settledItem linked discount =
      category.chargedBy :=
    funext (reprices_settledItem.keeps fun _ _ _ => chargedBy_congr rfl rfl)
  rw [← resolveDiscount_id resolved, chargeCount, perm.countP_eq, List.countP_map, blind]
  refine Basket.chargeCount_refreshed.trans ?_
  rw [sameItems, resolveDiscount_id resolved]

/-- A recalculation of the shipment that succeeds, with the delivery or later. -/
inductive Recalculated (r : Recalculator) (id : ShipmentId) (s : Store)
    (report : RecalculationReport) (s' : Store) : Prop
  | again {ids : IdSupply} {now : Timestamp} : ids.FreshFor s id →
      r.recalculate ids now id s = .ok (report, s') → Recalculated r id s report s'
  | delivered {ids : IdSupply} {now : Timestamp} {date : Date} : ids.FreshFor s id →
      r.deliverAndPrice ids now id date s = .ok (report, s') → Recalculated r id s report s'

/-- The step lemma of all that follows: what one recalculation makes of the base charges. -/
theorem Recalculated.chargeCount (filed : s.Filed) (h : r.Recalculated id s report s') :
    s'.Filed ∧ report.lineItems = s'.lineItemsOf id ∧ ∀ category : BaseCategory,
      category.chargeCount (s'.lineItemsOf id) = category.chargeCount (s.lineItemsOf id) +
        if r.calculator.rates.flags category ∨
          category.chargeCount (s.lineItemsOf id) = 0 then 1 else 0 := by
  cases h with
  | again fresh recalculated =>
    obtain ⟨shipment, stored, ran⟩ := recalculate_eq_ok.1 recalculated
    obtain rfl := filed.shipments stored
    exact ⟨filed_run filed ran, lineItems_of_run ran, fun _ => chargeCount_run filed fresh ran⟩
  | delivered fresh delivered =>
    obtain ⟨old, shipment, side, stored, left, beside, demand, ran⟩ :=
      deliverAndPrice_eq_ok delivered
    have sameId := filed.shipments stored
    obtain ⟨-, moved⟩ := Shipment.deliver_eq_ok left
    obtain rfl : shipment.id = id := by rw [moved, ← sameId]
    have filed' := beside.filed filed
    have fresh' := fresh.congr (demand filed) beside.lineItems
    have sameItems : side.lineItemsOf shipment.id = s.lineItemsOf shipment.id := by
      rw [Store.lineItemsOf, beside.lineItems]
      rfl
    refine ⟨filed_run filed' ran, lineItems_of_run ran, fun category => ?_⟩
    rw [← sameItems]
    exact chargeCount_run filed' fresh' ran

/-- `n` recalculations of the shipment, one after the other, by one rate table. -/
inductive Repeated (t : RateTable) (id : ShipmentId) (s : Store) : Nat → Store → Prop
  | none : Repeated t id s 0 s
  | more {r : Recalculator} {n : Nat} {s' s'' : Store} {report : RecalculationReport} :
      Repeated t id s n s' → r.calculator.rates = t → r.Recalculated id s' report s'' →
      Repeated t id s (n + 1) s''

theorem Repeated.chargeCount (filed : s.Filed)
    (present : ∀ category : BaseCategory, category.chargeCount (s.lineItemsOf id) ≠ 0)
    (h : Repeated t id s n s') :
    s'.Filed ∧ ∀ category : BaseCategory, category.chargeCount (s'.lineItemsOf id) =
      category.chargeCount (s.lineItemsOf id) + if t.flags category then n else 0 := by
  induction h with
  | none => exact ⟨filed, fun category => by simp⟩
  | more _ sameRates next ih =>
    obtain ⟨filed', before⟩ := ih
    obtain ⟨filed'', -, after⟩ := next.chargeCount filed'
    refine ⟨filed'', fun category => ?_⟩
    rw [after, before, sameRates]
    have := present category
    cases t.flags category <;> simp <;> omega

/-- Where a shipment has no base charge twice, a recalculation leaves it with each of
them once exactly if the tariff flags none of their codes, and then no repetition makes
another. A flagged charge is made again each time. -/
theorem baseCharges_iff (filed : s.Filed)
    (single : ∀ category : BaseCategory, category.chargeCount (s.lineItemsOf id) ≤ 1)
    (first : r.Recalculated id s report s')
    (further : Repeated r.calculator.rates id s' n s'') :
    ((r.calculator.rates.missingBaseCategories report.lineItems = [] ∧
        r.calculator.rates.verifyBaseItems report.lineItems = .ok ()) ↔
      r.calculator.rates.OpenBaseCodes) ∧
    ∀ category : BaseCategory, category.chargeCount (s''.lineItemsOf id) =
      if r.calculator.rates.flags category then
        category.chargeCount (s.lineItemsOf id) + 1 + n else 1 := by
  obtain ⟨filed', told, count⟩ := first.chargeCount filed
  have once (category : BaseCategory) (unflagged : r.calculator.rates.flags category = false) :
      category.chargeCount (s'.lineItemsOf id) = 1 := by
    have := single category
    rw [count, unflagged]
    simp only [Bool.false_eq_true, false_or]
    split <;> omega
  constructor
  · rw [told, RateTable.missingBaseCategories_eq_nil, RateTable.verifyBaseItems_eq_ok,
      RateTable.openBaseCodes_iff]
    constructor
    · exact fun verified category => (verified.2 category).1
    · intro unflagged
      have all (category : BaseCategory) := And.intro (unflagged category)
        (once category (unflagged category))
      exact ⟨fun category => ⟨(all category).1, by simp [(all category).2]⟩, all⟩
  · intro category
    have present (category : BaseCategory) :
        category.chargeCount (s'.lineItemsOf id) ≠ 0 := by
      rw [count]
      split <;> omega
    rw [(further.chargeCount filed' present).2]
    split
    · next flagged => rw [count, flagged, if_pos (.inl rfl)]
    · next unflagged => rw [once category (Bool.eq_false_iff.2 unflagged)]

/-- A first recalculation makes what the sample shipment lacks, and a second nothing. -/
theorem baseCharges_iff_sample :
    ∃ report s' s'', Sample.recalculator.Recalculated (Sample.id 1) Sample.store report s' ∧
      Repeated Sample.rates (Sample.id 1) s' 1 s'' ∧
      Sample.rates.missingBaseCategories report.lineItems = [] ∧
      Sample.rates.verifyBaseItems report.lineItems = .ok () ∧
      ∀ category : BaseCategory, category.chargeCount (s''.lineItemsOf (Sample.id 1)) = 1 := by
  have single : ∀ category : BaseCategory,
      category.chargeCount (Sample.store.lineItemsOf (Sample.id 1)) ≤ 1 := by
    intro category
    cases category <;> decide +kernel
  have openCodes : Sample.rates.OpenBaseCodes := by decide +kernel
  have fresh : Sample.ids.FreshFor Sample.store (Sample.id 1) := by decide +kernel
  have both : (Sample.recalculator.recalculate Sample.ids Sample.time (Sample.id 1)
      Sample.store).toOption.any fun done =>
        decide (Sample.laterIds.FreshFor done.2 (Sample.id 1)) &&
          (Sample.recalculator.recalculate Sample.laterIds Sample.time (Sample.id 1)
            done.2).toOption.isSome := by
    decide +kernel
  simp only [Option.any_eq_true, Bool.and_eq_true, decide_eq_true_eq, Prod.exists] at both
  obtain ⟨report, s', found, fresh', succeeds⟩ := both
  obtain ⟨⟨_, s''⟩, found'⟩ := Option.isSome_iff_exists.1 succeeds
  have first : Sample.recalculator.Recalculated (Sample.id 1) Sample.store report s' :=
    .again fresh (toOption_eq_some.1 found)
  have second : Repeated Sample.rates (Sample.id 1) s' 1 s'' :=
    .more .none rfl (.again fresh' (toOption_eq_some.1 found'))
  obtain ⟨verified, counts⟩ := baseCharges_iff Sample.filed_store single first second
  refine ⟨report, s', s'', first, second, (verified.2 openCodes).1, (verified.2 openCodes).2, ?_⟩
  intro category
  rw [counts, if_neg]
  exact Bool.eq_false_iff.1 (RateTable.openBaseCodes_iff.1 openCodes category)

/-- Where the tariff flags unpacking, the charge for it does not count as one: it is made
by the first recalculation, which leaves it missing, and once more by the second. -/
theorem recalculate_flagged_sample :
    let r : Recalculator := { Sample.recalculator with calculator.rates := Sample.flaggedRates }
    (RateTable.ofReference Sample.flaggedReference).toOption = some Sample.flaggedRates ∧
      Sample.store.Filed ∧
      (∀ category : BaseCategory,
        category.chargeCount (Sample.store.lineItemsOf (Sample.id 1)) ≤ 1) ∧
      ∃ report s' report' s'',
        r.recalculate Sample.ids Sample.time (Sample.id 1) Sample.store = .ok (report, s') ∧
        Sample.flaggedRates.missingBaseCategories report.lineItems = [.unpack] ∧
        Sample.flaggedRates.verifyBaseItems report.lineItems ≠ .ok () ∧
        r.recalculate Sample.laterIds Sample.time (Sample.id 1) s' = .ok (report', s'') ∧
        chargeCount .unpack (s''.lineItemsOf (Sample.id 1)) = 2 := by
  intro r
  refine ⟨by decide +kernel, Sample.filed_store, ?_, ?_⟩
  · intro category
    cases category <;> decide +kernel
  have both : (r.recalculate Sample.ids Sample.time (Sample.id 1)
      Sample.store).toOption.any fun done =>
        decide (Sample.flaggedRates.missingBaseCategories done.1.lineItems = [.unpack]) &&
        (Sample.flaggedRates.verifyBaseItems done.1.lineItems).toOption.isNone &&
        (r.recalculate Sample.laterIds Sample.time (Sample.id 1) done.2).toOption.any fun again =>
          decide (chargeCount .unpack (again.2.lineItemsOf (Sample.id 1)) = 2) := by
    decide +kernel
  simp only [Option.any_eq_true, Bool.and_eq_true, decide_eq_true_eq, Prod.exists] at both
  obtain ⟨report, s', found, ⟨missing, refused⟩, report', s'', found', twice⟩ := both
  refine ⟨report, s', report', s'', toOption_eq_some.1 found, missing, fun verified => ?_,
    toOption_eq_some.1 found', twice⟩
  rw [verified] at refused
  contradiction

end Recalculator
end Haulage
