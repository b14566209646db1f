import Haulage.Proofs.Basket.UpToDate

/-! What a refreshed basket depends on. Of its items a run looks only for those that are
tied to a SIT and those that count as base charges. Any other item stays as it is, and makes
no difference to what is made, nor to what becomes of the items beside it. -/
namespace Haulage

namespace RateTable
variable {t : RateTable} {item item' : LineItem} {category : BaseCategory}

/-- The item is one that a run looks for: it is tied to a SIT, or counts as a base charge. -/
def looksFor (t : RateTable) (item : LineItem) : Bool :=
  item.sitId.isSome || (t.baseCategory? item).isSome

theorem looksFor_of_baseCategory? (counted : t.baseCategory? item = some category) :
    t.looksFor item := by
  simp [looksFor, counted]

theorem looksFor_of_isSitItem {sit : Sit} {code : String} (tied : Basket.isSitItem sit code item) :
    t.looksFor item := by
  simp [looksFor, (Basket.isSitItem_eq_true.1 tied).1]

theorem looksFor_requantified (h : item.Requantified item') :
    t.looksFor item' = t.looksFor item := by
  simp only [looksFor, h.sitId_eq, baseCategory?_congr h.tariffCode_eq h.sitId_eq]

theorem looksFor_of_preApproved (untied : item.sitId = none)
    (preApproved : (t.items.get? item.tariffCode).any (·.requiresPreApproval)) :
    t.looksFor item = false := by
  have uncounted : t.baseCategory? item = none := by
    unfold baseCategory?
    split
    · rw [if_pos (.inr preApproved)]
    · rfl
  simp [looksFor, untied, uncounted]

theorem refreshBaseItem_of_unsought {weight : Pounds} {miles : Miles}
    (unsought : t.looksFor item = false) : t.refreshBaseItem weight miles item = item := by
  have uncounted : t.baseCategory? item = none := by
    rw [looksFor, Bool.or_eq_false_iff, Option.isSome_eq_false_iff,
      Option.isSome_eq_false_iff] at unsought
    exact Option.isNone_iff_eq_none.1 unsought.2
  unfold refreshBaseItem
  rw [uncounted]
  split <;> rfl

end RateTable

namespace Basket

/-- The items of `c` that a run does not look for are items of `b`, or have been made. -/
def KeepsUnsought (t : RateTable) (shipmentId : ShipmentId) (now : Timestamp) (b c : Basket) :
    Prop :=
  ∀ item ∈ c.items, t.looksFor item = false →
    item ∈ b.items ∨ ∃ id ∈ c.created, item.Made id shipmentId now

namespace KeepsUnsought
variable {t : RateTable} {b c : Basket} {ids : IdSupply} {shipmentId : ShipmentId}
  {now : Timestamp} {weight : Pounds} {miles : Miles}

theorem push {new : LineItem} (kept : KeepsUnsought t shipmentId now b c)
    (made : new.Made (c.nextId ids) shipmentId now) :
    KeepsUnsought t shipmentId now b (c.push new) := by
  intro item mem unsought
  rcases List.mem_append.1 mem with mem | mem
  · rcases kept item mem unsought with old | ⟨id, memId, made'⟩
    · exact .inl old
    · exact .inr ⟨id, List.mem_append_left _ memId, made'⟩
  · obtain rfl := List.mem_singleton.1 mem
    exact .inr ⟨item.id, List.mem_append_right _ List.mem_cons_self, made.id_eq.symm ▸ made⟩

theorem addMissing (kept : KeepsUnsought t shipmentId now b c) :
    KeepsUnsought t shipmentId now b (c.addMissing t ids shipmentId now) := by
  unfold Basket.addMissing
  generalize t.missingBaseCategories c.items = categories
  induction categories generalizing c with
  | nil => exact kept
  | cons category rest ih => exact ih (kept.push (made_base _ category))

theorem refreshBase (kept : KeepsUnsought t shipmentId now b c) :
    KeepsUnsought t shipmentId now b (c.refreshBase t weight miles) := by
  intro item mem unsought
  obtain ⟨old, memOld, rfl⟩ := List.mem_map.1 mem
  rw [RateTable.looksFor_requantified (requantified_refreshBaseItem t weight miles old)] at unsought
  rw [RateTable.refreshBaseItem_of_unsought unsought]
  exact kept old memOld unsought

theorem ensureSitItem {sit : Sit} {days : Nat} {code : String}
    (kept : KeepsUnsought t shipmentId now b c) : KeepsUnsought t shipmentId now b
      (ensureSitItem ids shipmentId now weight sit days c code) := by
  unfold Basket.ensureSitItem
  split
  · intro item mem unsought
    rcases mem_modifyFirst mem with mem | ⟨old, found, rfl⟩
    · exact kept item mem unsought
    · have tied := List.find?_some found
      rw [RateTable.looksFor_requantified (requantified_refreshStay sit weight days old),
        RateTable.looksFor_of_isSitItem tied] at unsought
      contradiction
  · exact kept.push (made_stayItem _ weight sit days code)

theorem ensureSits {sits : List Sit} (kept : KeepsUnsought t shipmentId now b c) :
    KeepsUnsought t shipmentId now b (sits.foldl (ensureSit ids shipmentId now weight) c) := by
  induction sits generalizing c with
  | nil => exact kept
  | cons sit rest ih =>
    refine ih ?_
    unfold ensureSit
    split
    · exact kept
    · exact kept.ensureSitItem.ensureSitItem

end KeepsUnsought

/-- Every item of a refreshed basket is an older one, in new quantities at most where the run
looks for it, or has been made. -/
theorem refreshed_origin {b : Basket} {t : RateTable} {ids : IdSupply} {shipmentId : ShipmentId}
    {now : Timestamp} {weight : Pounds} {miles : Miles} {sits : List Sit} {item : LineItem}
    (mem : item ∈ (b.refreshed t ids shipmentId now weight miles sits).items) :
    (∃ old ∈ b.items, old.Requantified item ∧ (t.looksFor old = false → item = old)) ∨
      ∃ id ∈ (b.refreshed t ids shipmentId now weight miles sits).created,
        item.Made id shipmentId now := by
  have start : KeepsUnsought t shipmentId now b b := fun _ mem _ => .inl mem
  cases sought : t.looksFor item with
  | true =>
    rcases (refreshed_grows b t weight miles sits).origin mem with ⟨old, memOld, changed⟩ | made
    · rw [RateTable.looksFor_requantified changed] at sought
      exact .inl ⟨old, memOld, changed, fun unsought => absurd sought (by simp [unsought])⟩
    · exact .inr made
  | false =>
    rcases start.addMissing.refreshBase.ensureSits item mem sought with old | made
    · exact .inl ⟨item, old, .same, fun _ => rfl⟩
    · exact .inr made

section Filters
variable {α β : Type} {keep p : α → Bool} {f : α → α} {g : α → Option β}

theorem any_filter_of_imp (within : ∀ x, p x → keep x) (xs : List α) :
    (xs.filter keep).any p = xs.any p := by
  rw [List.any_filter]
  congr 1
  funext x
  cases here : p x with
  | false => rw [Bool.and_false]
  | true => rw [within x here, Bool.and_true]

theorem filterMap_filter_of_imp (within : ∀ x y, g x = some y → keep x) (xs : List α) :
    (xs.filter keep).filterMap g = xs.filterMap g := by
  rw [List.filterMap_filter]
  refine List.filterMap_congr fun x _ => ?_
  cases here : g x with
  | none => rw [ite_self]
  | some y => rw [if_pos (within x y here)]

theorem filter_map_of_kept (same : ∀ x, keep (f x) = keep x) (xs : List α) :
    (xs.map f).filter keep = (xs.filter keep).map f := by
  rw [List.filter_map]
  congr 2
  funext x
  exact same x

theorem filter_modifyFirst (within : ∀ x, p x → keep x) (same : ∀ x, keep (f x) = keep x)
    (xs : List α) : (modifyFirst p f xs).filter keep = modifyFirst p f (xs.filter keep) := by
  induction xs with
  | nil => rfl
  | cons x rest ih =>
    rw [modifyFirst]
    cases here : p x with
    | true =>
      have kept : keep x = true := within x here
      simp [same, kept, modifyFirst, here]
    | false =>
      cases kept : keep x with
      | true => simp [kept, modifyFirst, here, ih]
      | false => simp [kept, ih]

end Filters

/-- `keep` holds of all items that a run looks for, and of an item as long as nothing but
its quantities and its place change. -/
structure Holds (t : RateTable) (keep : LineItem → Bool) : Prop where
  looksFor : ∀ item, t.looksFor item → keep item
  requantified : ∀ {item item'}, item.Requantified item' → keep item' = keep item

/-- The baskets have made the same items, and have the same of those that `keep` holds of. -/
structure AgreeOn (keep : LineItem → Bool) (b c : Basket) : Prop where
  created : c.created = b.created
  items : c.items.filter keep = b.items.filter keep

namespace AgreeOn
variable {keep : LineItem → Bool} {b c : Basket} {t : RateTable} {ids : IdSupply}
  {shipmentId : ShipmentId} {now : Timestamp} {weight : Pounds} {miles : Miles} {sit : Sit}
  {sits : List Sit}

theorem nextId (agree : b.AgreeOn keep c) : c.nextId ids = b.nextId ids := by
  rw [Basket.nextId, Basket.nextId, agree.created]

theorem push (agree : b.AgreeOn keep c) (item : LineItem) :
    (b.push item).AgreeOn keep (c.push item) where
  created := by rw [Basket.push, Basket.push, agree.created]
  items := by rw [Basket.push, Basket.push, List.filter_append, List.filter_append, agree.items]

/-- The same refresh of all items, where it leaves `keep` as it is. -/
theorem refresh {f : List LineItem → List LineItem} (agree : b.AgreeOn keep c)
    (same : ∀ items, (f items).filter keep = f (items.filter keep)) :
    AgreeOn keep { b with items := f b.items } { c with items := f c.items } where
  created := agree.created
  items := by rw [same, same, agree.items]

theorem missingBaseCategories (agree : b.AgreeOn keep c) (holds : Holds t keep) :
    t.missingBaseCategories c.items = t.missingBaseCategories b.items := by
  have within : ∀ item category, t.baseCategory? item = some category → keep item :=
    fun item _ counted => holds.looksFor item (RateTable.looksFor_of_baseCategory? counted)
  unfold RateTable.missingBaseCategories
  rw [← filterMap_filter_of_imp within c.items, ← filterMap_filter_of_imp within b.items,
    agree.items]

theorem addMissing (agree : b.AgreeOn keep c) (holds : Holds t keep) :
    (b.addMissing t ids shipmentId now).AgreeOn keep (c.addMissing t ids shipmentId now) := by
  unfold Basket.addMissing
  rw [agree.missingBaseCategories holds]
  generalize t.missingBaseCategories b.items = categories
  induction categories generalizing b c with
  | nil => exact agree
  | cons category rest ih =>
    refine ih ?_
    dsimp only
    rw [agree.nextId]
    exact agree.push _

theorem refreshBase (agree : b.AgreeOn keep c) (holds : Holds t keep) :
    (b.refreshBase t weight miles).AgreeOn keep (c.refreshBase t weight miles) :=
  agree.refresh (f := List.map (t.refreshBaseItem weight miles)) <| filter_map_of_kept fun item =>
    holds.requantified (requantified_refreshBaseItem t weight miles item)

theorem ensureSitItem {days : Nat} {code : String} (agree : b.AgreeOn keep c)
    (holds : Holds t keep) :
    (ensureSitItem ids shipmentId now weight sit days b code).AgreeOn keep
      (ensureSitItem ids shipmentId now weight sit days c code) := by
  have within : ∀ item, isSitItem sit code item → keep item :=
    fun item tied => holds.looksFor item (RateTable.looksFor_of_isSitItem tied)
  have sought : c.items.any (isSitItem sit code) = b.items.any (isSitItem sit code) := by
    rw [← any_filter_of_imp within c.items, ← any_filter_of_imp within b.items, agree.items]
  unfold Basket.ensureSitItem
  rw [sought]
  split
  · exact agree.refresh (f := modifyFirst (isSitItem sit code) (refreshStay sit weight days)) <|
      filter_modifyFirst within fun item =>
        holds.requantified (requantified_refreshStay sit weight days item)
  · rw [agree.nextId]
    exact agree.push _

theorem ensureSits (agree : b.AgreeOn keep c) (holds : Holds t keep) :
    (sits.foldl (ensureSit ids shipmentId now weight) b).AgreeOn keep
      (sits.foldl (ensureSit ids shipmentId now weight) c) := by
  induction sits generalizing b c with
  | nil => exact agree
  | cons sit rest ih =>
    refine ih ?_
    unfold ensureSit
    split
    · exact agree
    · exact (agree.ensureSitItem holds).ensureSitItem holds

theorem refreshed (agree : b.AgreeOn keep c) (holds : Holds t keep) :
    (b.refreshed t ids shipmentId now weight miles sits).AgreeOn keep
      (c.refreshed t ids shipmentId now weight miles sits) :=
  ((agree.addMissing holds).refreshBase holds).ensureSits holds

end AgreeOn
end Basket
end Haulage
