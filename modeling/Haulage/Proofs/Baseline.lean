import Haulage.Proofs.ItemOrigins

/-! What an approval freezes: the code, place and quantities of a request, and which records
hold its measurements. Only an actual-cost item with an estimate can be changed at all once it
is approved, and then not in these. -/
namespace Haulage

/-- `item` has the baseline of `old`. -/
structure LineItem.SameBaseline (old item : LineItem) : Prop where
  tariffCode : item.tariffCode = old.tariffCode
  location : item.location = old.location
  quantity1 : item.quantity1 = old.quantity1
  quantity2 : item.quantity2 = old.quantity2
  itemDimensionsId : item.itemDimensionsId = old.itemDimensionsId
  crateDimensionsId : item.crateDimensionsId = old.crateDimensionsId

theorem LineItem.sameBaseline_withPrice (item : LineItem) (amount : Option Cents)
    (appliedRate : Option Millicents) : item.SameBaseline (item.withPrice amount appliedRate) :=
  ⟨rfl, rfl, rfl, rfl, rfl, rfl⟩

namespace RequestForm
variable {form : RequestForm} {item item' : LineItem} {s s' : Store}

/-- The form has what an approved item keeps, with measurements where the item has them. -/
structure Keeps (form : RequestForm) (item : LineItem) (s : Store) : Prop where
  tariffCode : form.tariffCode = item.tariffCode
  location : form.location = item.location
  quantity1 : form.quantity1 = item.quantity1
  quantity2 : form.quantity2 = item.quantity2
  itemDimensions : (item.itemDimensionsId.bind s.dimensions.get?).isSome =
    form.itemDimensions.isSome
  crateDimensions : (item.crateDimensionsId.bind s.dimensions.get?).isSome =
    form.crateDimensions.isSome

theorem isSome_of_sameDimensions {stored requested : Option Dimensions}
    (same : sameDimensions stored requested) : stored.isSome = requested.isSome := by
  cases stored with
  | none =>
    cases requested with
    | none => rfl
    | some _ => contradiction
  | some _ =>
    cases requested with
    | none => contradiction
    | some _ => rfl

theorem keeps_of_ensureBaseline (approved : item.status = .approved)
    (h : form.ensureBaseline item s = .ok ()) : form.Keeps item s := by
  unfold ensureBaseline at h
  rw [if_neg (not_not.2 approved)] at h
  dsimp only at h
  split at h
  · next unchanged =>
    simp only [baselineChanges, List.append_eq_nil_iff, ite_eq_right_iff, ite_eq_left_iff,
      List.cons_ne_nil, imp_false, not_not] at unchanged
    obtain ⟨⟨⟨⟨⟨code, location⟩, quantity1⟩, quantity2⟩, itemSizes⟩, crateSizes⟩ := unchanged
    exact ⟨code, location, quantity1, quantity2, isSome_of_sameDimensions itemSizes,
      isSome_of_sameDimensions crateSizes⟩
  · contradiction

/-- A slot that holds a record before and after, or neither, keeps its id; where the record of
an id is missing, it cannot be taken away. -/
theorem Replaces.kept {existing id : Option DimensionsId} {replacement : Option Dimensions}
    (replaces : Replaces s existing replacement id s')
    (both : (existing.bind s.dimensions.get?).isSome = replacement.isSome) :
    id = existing ∧ ∀ d, (s'.dimensions.get? d).isSome = (s.dimensions.get? d).isSome := by
  cases replaces with
  | written existing new =>
    obtain ⟨stored, found⟩ := Option.isSome_iff_exists.1 both
    obtain ⟨home, rfl, there⟩ := Option.bind_eq_some_iff.1 found
    refine ⟨rfl, fun d => ?_⟩
    rw [Store.saveDimensions, SortedMap.get?_insert]
    split
    · next same => simp [same, there]
    · rfl
  | erased present => exact absurd both (by simp [present])
  | absent => exact ⟨rfl, fun _ => rfl⟩

theorem Keeps.sameBaseline (keeps : form.Keeps item s)
    (h : form.applyTo { item with tariffCode := form.tariffCode } s = .ok (item', s')) :
    item.SameBaseline item' := by
  obtain ⟨itemId, crateId, _, s₁, s₂, itemSizes, crateSizes, _, rfl⟩ := applyTo_parts h
  obtain ⟨sameItemId, present⟩ := itemSizes.kept keeps.itemDimensions
  -- The form was compared before either slot was written; the first write removes no record.
  have crates : (item.crateDimensionsId.bind s₁.dimensions.get?).isSome =
      form.crateDimensions.isSome := by
    rw [← keeps.crateDimensions]
    cases item.crateDimensionsId with
    | none => rfl
    | some d => exact present d
  exact ⟨keeps.tariffCode, keeps.location, keeps.quantity1, keeps.quantity2, sameItemId,
    (crateSizes.kept crates).1⟩

end RequestForm

namespace Services
variable {v : Services} {s : Store} {op : Operation} {key : LineItemId} {old item : LineItem}

theorem Writes.sameBaseline (writes : v.Writes s op (some old) item)
    (approved : old.status = .approved)
    (unsought : v.recalculator.calculator.rates.looksFor old = false) :
    old.SameBaseline item := by
  cases writes with
  | update _ _ kept applied repriced =>
    have filled := (RequestForm.keeps_of_ensureBaseline approved kept).sameBaseline applied
    obtain ⟨_, _, _, _, rfl⟩ := Calculator.reprice_eq repriced
    exact ⟨filled.tariffCode, filled.location, filled.quantity1, filled.quantity2,
      filled.itemDimensionsId, filled.crateDimensionsId⟩
  | approve _ moved =>
    obtain ⟨_, _, rfl⟩ := LineItem.apply_eq_ok moved
    exact ⟨rfl, rfl, rfl, rfl, rfl, rfl⟩
  | price _ _ _ same =>
    obtain rfl := same unsought
    exact LineItem.sameBaseline_withPrice _ _ _

/-- Approved without an estimate, or under another code, an item is only priced. -/
theorem Writes.withPrice (writes : v.Writes s op (some old) item)
    (approved : old.status = .approved)
    (unsought : v.recalculator.calculator.rates.looksFor old = false)
    (settled : ¬ (old.tariffCode = actualCostCode ∧ old.estimateAmount.isSome)) :
    ∃ amount appliedRate, item = old.withPrice amount appliedRate := by
  cases writes with
  | update _ mutable_ =>
    exact absurd (LineItem.actualCost_of_ensureMutable mutable_ approved) settled
  | approve _ moved =>
    obtain ⟨_, moved, _⟩ := LineItem.apply_eq_ok moved
    have elsewhere := (LineItemStatus.transition_eq_ok.1 moved).2.1
    cases action : old.approval with
    | approve =>
      rw [action] at elsewhere
      exact absurd approved elsewhere
    | conditionallyApprove =>
      obtain ⟨actualCost, estimated, _⟩ := LineItem.approval_eq_conditionallyApprove.1 action
      exact absurd ⟨actualCost, estimated⟩ settled
  | price _ _ _ same =>
    obtain rfl := same unsought
    exact ⟨_, _, rfl⟩

/-- Whatever is done, the baseline of an approved request stays as it is while the request is
in the store; and but for an actual-cost item with an estimate, all of it stays except the price. -/
theorem sameBaseline_commit (filed : s.Filed) (fresh : op.IdsFresh s)
    (stored : s.lineItems.get? key = some old) (approved : old.status = .approved)
    (untied : old.sitId = none)
    (preApproved : (v.recalculator.calculator.rates.items.get? old.tariffCode).any
      (·.requiresPreApproval))
    (found : (v.commit s op).lineItems.get? key = some item) :
    old.SameBaseline item ∧
      (¬ (old.tariffCode = actualCostCode ∧ old.estimateAmount.isSome) →
        ∃ amount appliedRate, item = old.withPrice amount appliedRate) := by
  have unsought := RateTable.looksFor_of_preApproved untied preApproved
  rcases commit_successor filed fresh stored found with rfl | writes
  · exact ⟨⟨rfl, rfl, rfl, rfl, rfl, rfl⟩, fun _ => ⟨item.amount, item.appliedRate, rfl⟩⟩
  · exact ⟨writes.sameBaseline approved unsought, writes.withPrice approved unsought⟩

/-- Beside approved crating stands a third party's service, with the measurements of what is
served. Another actual amount comes in for the service, with the same measurements under another
id, which are stored under the id that the service has for them; and a recalculation prices
the crating. -/
theorem sameBaseline_commit_sample :
    let sizes : Dimensions := { id := Sample.id 1, length := ⟨5⟩, width := ⟨5⟩, height := ⟨5⟩ }
    let served : LineItem := { Sample.estimate with
      id := Sample.id 2, status := .approved, approvedDate := some Sample.time
      actualAmount := some ⟨7500⟩, itemDimensionsId := some sizes.id }
    let crated : LineItem :=
      { Sample.crating with status := .approved, approvedDate := some Sample.time }
    let start := ((Sample.linked.saveDimensions sizes).saveLineItem served).saveLineItem crated
    let charge : Operation := .updateLineItem Sample.time (Sample.id 2)
      { tariffCode := "35A", location := .origin, estimateAmount := some ⟨5000⟩
        actualAmount := some ⟨9000⟩, itemDimensions := some { sizes with id := Sample.id 7 } }
    let price : Operation := .recalculate Sample.ids Sample.time (Sample.id 1)
    start.Filed ∧
      (∃ item, (Sample.services.commit start charge).lineItems.get? (Sample.id 2) = some item ∧
        item.actualAmount = some ⟨9000⟩ ∧ served.SameBaseline item) ∧
      ∃ item, (Sample.services.commit start price).lineItems.get? (Sample.id 3) = some item ∧
        item.amount.isSome ∧ ∃ amount appliedRate, item = crated.withPrice amount appliedRate := by
  intro sizes served crated start charge price
  have filed : start.Filed :=
    (((Sample.filed_store.saveShipment _).saveDimensions _).saveLineItem _).saveLineItem _
  have charged : ((Sample.services.commit start charge).lineItems.get? (Sample.id 2)).map
      (·.actualAmount) = some (some ⟨9000⟩) := by decide +kernel
  have priced : ((Sample.services.commit start price).lineItems.get? (Sample.id 3)).map
      (·.amount.isSome) = some true := by decide +kernel
  obtain ⟨item, found, amount⟩ := Option.map_eq_some_iff.1 charged
  obtain ⟨item', found', amount'⟩ := Option.map_eq_some_iff.1 priced
  have fresh : charge.IdsFresh start := trivial
  have fresh' : price.IdsFresh start := ⟨by decide +kernel, by decide +kernel⟩
  have here : start.lineItems.get? (Sample.id 2) = some served := by decide +kernel
  have here' : start.lineItems.get? (Sample.id 3) = some crated := by decide +kernel
  refine ⟨filed, ⟨item, found, amount, ?_⟩, item', found', amount', ?_⟩
  · exact (sameBaseline_commit filed fresh here rfl rfl (by decide +kernel) found).1
  · exact (sameBaseline_commit filed fresh' here' rfl rfl (by decide +kernel) found').2
      (by decide)

end Services
end Haulage
