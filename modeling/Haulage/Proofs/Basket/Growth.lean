import Haulage.Basket
import Mathlib.Data.List.Forall2
import Mathlib.Data.List.Nodup

/-! How a basket grows: items that are not invoiced get new quantities, and new items are
made under the next ids of the supply. Everything else about an item stays. -/
namespace Haulage

namespace LineItem

/-- The item at another price, or at none. -/
def withPrice (item : LineItem) (amount : Option Cents) (appliedRate : Option Millicents) :
    LineItem :=
  { item with amount, appliedRate }

/-- `old` with other quantities, maybe at another end of the move; an invoiced item stays
as it is. -/
inductive Requantified (old : LineItem) : LineItem → Prop
  | same : Requantified old old
  | changed (location : LineItemLocation) (quantity1 quantity2 : Quantity) :
      old.isInvoiced = false → Requantified old { old with location, quantity1, quantity2 }

/-- An item that the system makes now for a shipment. -/
inductive Made (id : LineItemId) (shipmentId : ShipmentId) (now : Timestamp) : LineItem → Prop
  | mk (code : String) (location : LineItemLocation) (sitId : Option SitId)
      (quantity1 quantity2 : Quantity) :
      Made id shipmentId now
        { approvedNow id shipmentId code location now with sitId, quantity1, quantity2 }

namespace Requantified
variable {a b c : LineItem}

theorem trans (first : Requantified a b) (second : Requantified b c) : Requantified a c := by
  cases first with
  | same => exact second
  | changed location q₁ q₂ opened =>
    cases second with
    | same => exact .changed location q₁ q₂ opened
    | changed location' q₁' q₂' _ => exact .changed location' q₁' q₂' opened

theorem eq_of_isInvoiced (h : Requantified a b) (invoiced : b.isInvoiced) : a = b := by
  cases h with
  | same => rfl
  | changed _ _ _ opened => exact absurd invoiced (by simpa [isInvoiced] using opened)

theorem id_eq (h : Requantified a b) : b.id = a.id := by cases h <;> rfl

theorem shipmentId_eq (h : Requantified a b) : b.shipmentId = a.shipmentId := by cases h <;> rfl

theorem tariffCode_eq (h : Requantified a b) : b.tariffCode = a.tariffCode := by cases h <;> rfl

theorem sitId_eq (h : Requantified a b) : b.sitId = a.sitId := by cases h <;> rfl

theorem createdAt_eq (h : Requantified a b) : b.createdAt = a.createdAt := by cases h <;> rfl

theorem status_eq (h : Requantified a b) : b.status = a.status := by cases h <;> rfl

theorem amount_eq (h : Requantified a b) : b.amount = a.amount := by cases h <;> rfl

theorem appliedRate_eq (h : Requantified a b) : b.appliedRate = a.appliedRate := by
  cases h <;> rfl

theorem isInvoiced_eq (h : Requantified a b) : b.isInvoiced = a.isInvoiced := by cases h <;> rfl

end Requantified

namespace Made
variable {id : LineItemId} {shipmentId : ShipmentId} {now : Timestamp} {item item' : LineItem}

theorem requantified (made : item.Made id shipmentId now) (h : item.Requantified item') :
    item'.Made id shipmentId now := by
  cases made with
  | mk code location sitId q₁ q₂ =>
    cases h with
    | same => exact .mk code location sitId q₁ q₂
    | changed location' q₁' q₂' _ => exact .mk code location' sitId q₁' q₂'

theorem id_eq (made : item.Made id shipmentId now) : item.id = id := by cases made; rfl

theorem shipmentId_eq (made : item.Made id shipmentId now) : item.shipmentId = shipmentId := by
  cases made; rfl

theorem isInvoiced_eq (made : item.Made id shipmentId now) : item.isInvoiced = false := by
  cases made; rfl

theorem status_eq (made : item.Made id shipmentId now) : item.status = .approved := by
  cases made; rfl

theorem amount_eq (made : item.Made id shipmentId now) : item.amount = none := by cases made; rfl

theorem appliedRate_eq (made : item.Made id shipmentId now) : item.appliedRate = none := by
  cases made; rfl

end Made
end LineItem

namespace Basket
open LineItem (Requantified Made)

/-- What becomes of `b` by steps that refresh items or make one under the next id. -/
inductive Grows (ids : IdSupply) (shipmentId : ShipmentId) (now : Timestamp) (b : Basket) :
    Basket → Prop
  | refl : Grows ids shipmentId now b b
  | refresh {c : Basket} {items : List LineItem} : Grows ids shipmentId now b c →
      c.items.Forall₂ Requantified items → Grows ids shipmentId now b { c with items }
  | make {c : Basket} {item : LineItem} : Grows ids shipmentId now b c →
      item.Made (c.nextId ids) shipmentId now → Grows ids shipmentId now b (c.push item)

/-- The first `n` ids that go to items. -/
def drawn (ids : IdSupply) (n : Nat) : List LineItemId := (List.range n).map fun i => ⟨ids (i + 1)⟩

section Pairs
variable {α β : Type} {R : α → β → Prop} {xs : List α} {ys : List β}

theorem exists_before (related : xs.Forall₂ R ys) {y : β} (mem : y ∈ ys) : ∃ x ∈ xs, R x y := by
  induction related with
  | nil => contradiction
  | cons h _ ih =>
    rcases List.mem_cons.1 mem with rfl | mem
    · exact ⟨_, List.mem_cons_self, h⟩
    · obtain ⟨other, memOther, h'⟩ := ih mem
      exact ⟨other, List.mem_cons_of_mem _ memOther, h'⟩

theorem exists_after (related : xs.Forall₂ R ys) {x : α} (mem : x ∈ xs) : ∃ y ∈ ys, R x y :=
  exists_before (R := fun y x => R x y) related.flip mem

end Pairs

namespace Grows
variable {ids : IdSupply} {shipmentId : ShipmentId} {now : Timestamp} {b c d : Basket}

theorem trans (first : Grows ids shipmentId now b c) (second : Grows ids shipmentId now c d) :
    Grows ids shipmentId now b d := by
  induction second with
  | refl => exact first
  | refresh _ changed ih => exact ih.refresh changed
  | make _ made ih => exact ih.make made

theorem created_eq_drawn (grows : Grows ids shipmentId now b c) (empty : b.created = []) :
    c.created = drawn ids c.created.length := by
  induction grows with
  | refl => simp [empty, drawn]
  | refresh _ _ ih => exact ih
  | @make c item _ made ih =>
    simp only [push, drawn, List.length_append, List.length_singleton, List.range_succ,
      List.map_append, List.map_singleton, made.id_eq, nextId]
    rw [← drawn, ← ih]

theorem ids_eq (grows : Grows ids shipmentId now b c) (empty : b.created = []) :
    c.items.map (·.id) = b.items.map (·.id) ++ c.created := by
  induction grows with
  | refl => simp [empty]
  | @refresh c items _ changed ih =>
    rw [← ih]
    refine (List.forall₂_eq_eq_eq ▸ ?_ : c.items.map (·.id) = items.map (·.id)).symm
    rw [List.forall₂_map_left_iff, List.forall₂_map_right_iff]
    exact changed.imp fun _ _ h => h.id_eq.symm
  | make _ _ ih => simp only [push, List.map_append, ih, List.map_singleton, List.append_assoc]

/-- Every item is an older one, perhaps refreshed, or was made under an id of the run. -/
theorem origin (grows : Grows ids shipmentId now b c) {item : LineItem} (mem : item ∈ c.items) :
    (∃ old ∈ b.items, old.Requantified item) ∨
      ∃ id ∈ c.created, item.Made id shipmentId now := by
  induction grows generalizing item with
  | refl => exact .inl ⟨item, mem, .same⟩
  | refresh _ changed ih =>
    obtain ⟨before, mem', h⟩ := exists_before changed mem
    rcases ih mem' with ⟨old, memOld, h'⟩ | ⟨id, memId, made⟩
    · exact .inl ⟨old, memOld, h'.trans h⟩
    · exact .inr ⟨id, memId, made.requantified h⟩
  | make _ made ih =>
    rcases List.mem_append.1 mem with mem | mem
    · rcases ih mem with old | ⟨id, memId, made'⟩
      · exact .inl old
      · exact .inr ⟨id, List.mem_append_left _ memId, made'⟩
    · obtain rfl := List.mem_singleton.1 mem
      exact .inr ⟨item.id, by simp [push], made.id_eq.symm ▸ made⟩

/-- No item is lost. -/
theorem kept (grows : Grows ids shipmentId now b c) {old : LineItem} (mem : old ∈ b.items) :
    ∃ item ∈ c.items, old.Requantified item := by
  induction grows with
  | refl => exact ⟨old, mem, .same⟩
  | refresh _ changed ih =>
    obtain ⟨before, mem', h⟩ := ih
    obtain ⟨item, mem'', h'⟩ := exists_after changed mem'
    exact ⟨item, mem'', h.trans h'⟩
  | make _ _ ih =>
    obtain ⟨item, mem', h⟩ := ih
    exact ⟨item, List.mem_append_left _ mem', h⟩

end Grows

variable {ids : IdSupply} {shipmentId : ShipmentId} {now : Timestamp}

theorem requantified_refreshBaseItem (t : RateTable) (weight : Pounds) (miles : Miles)
    (item : LineItem) : item.Requantified (t.refreshBaseItem weight miles item) := by
  unfold RateTable.refreshBaseItem
  split
  · exact .same
  · next opened =>
    split
    · exact .changed item.location _ _ (by simpa using opened)
    · exact .same

theorem requantified_refreshStay (sit : Sit) (weight : Pounds) (days : Nat) (item : LineItem) :
    item.Requantified (refreshStay sit weight days item) := by
  unfold refreshStay
  split
  · exact .same
  · next opened => exact .changed _ _ _ (by simpa using opened)

theorem made_stayItem (id : LineItemId) (weight : Pounds) (sit : Sit) (days : Nat)
    (code : String) : (stayItem id shipmentId now weight sit days code).Made id shipmentId now :=
  .mk code _ (some sit.id) _ _

theorem made_base (id : LineItemId) (category : BaseCategory) :
    (LineItem.base id shipmentId category now).Made id shipmentId now :=
  .mk category.code category.location none .zero .zero

theorem addMissing_grows (b : Basket) (t : RateTable) :
    Grows ids shipmentId now b (b.addMissing t ids shipmentId now) := by
  unfold addMissing
  generalize t.missingBaseCategories b.items = categories
  induction categories generalizing b with
  | nil => exact .refl
  | cons category rest ih => exact (Grows.refl.make (made_base _ category)).trans (ih _)

theorem forall₂_refreshBase (b : Basket) (t : RateTable) (weight : Pounds) (miles : Miles) :
    b.items.Forall₂ Requantified (b.refreshBase t weight miles).items :=
  List.forall₂_map_right_iff.2 <| List.forall₂_same.2 fun item _ =>
    requantified_refreshBaseItem t weight miles item

theorem refreshBase_grows (b : Basket) (t : RateTable) (weight : Pounds) (miles : Miles) :
    Grows ids shipmentId now b (b.refreshBase t weight miles) :=
  .refresh .refl (forall₂_refreshBase b t weight miles)

theorem forall₂_modifyFirst {p : LineItem → Bool} {f : LineItem → LineItem}
    (changes : ∀ item : LineItem, item.Requantified (f item)) (items : List LineItem) :
    items.Forall₂ Requantified (modifyFirst p f items) := by
  induction items with
  | nil => exact .nil
  | cons item rest ih =>
    rw [modifyFirst]
    split
    · exact .cons (changes item) (List.forall₂_same.2 fun _ _ => .same)
    · exact .cons .same ih

theorem ensureSitItem_grows (b : Basket) (weight : Pounds) (sit : Sit) (days : Nat)
    (code : String) :
    Grows ids shipmentId now b (ensureSitItem ids shipmentId now weight sit days b code) := by
  unfold ensureSitItem
  split
  · exact .refresh .refl (forall₂_modifyFirst (requantified_refreshStay sit weight days) _)
  · exact .make .refl (made_stayItem _ weight sit days code)

theorem ensureSit_grows (b : Basket) (weight : Pounds) (sit : Sit) :
    Grows ids shipmentId now b (ensureSit ids shipmentId now weight b sit) := by
  unfold ensureSit
  split
  · exact .refl
  · next days _ =>
    exact (ensureSitItem_grows b weight sit days _).trans (ensureSitItem_grows _ weight sit days _)

theorem ensureSits_grows (b : Basket) (weight : Pounds) (sits : List Sit) :
    Grows ids shipmentId now b (sits.foldl (ensureSit ids shipmentId now weight) b) := by
  induction sits generalizing b with
  | nil => exact .refl
  | cons sit rest ih => exact (ensureSit_grows b weight sit).trans (ih _)

theorem refreshed_grows (b : Basket) (t : RateTable) (weight : Pounds) (miles : Miles)
    (sits : List Sit) :
    Grows ids shipmentId now b (b.refreshed t ids shipmentId now weight miles sits) :=
  ((addMissing_grows b t).trans (refreshBase_grows _ t weight miles)).trans
    (ensureSits_grows _ weight sits)

/-- What holds of the items before, and is kept where quantities change, where a base item
is made and where an item is made for a stay that has none of its code, holds of the
refreshed basket. -/
theorem refreshed_induction {P : List LineItem → Prop} {b : Basket} {t : RateTable}
    {weight : Pounds} {miles : Miles} {sits : List Sit}
    (refresh : ∀ {items items'}, items.Forall₂ Requantified items' → P items → P items')
    (base : ∀ {items} id category, P items → P (items ++ [.base id shipmentId category now]))
    (stay : ∀ {items} id days, ∀ sit ∈ sits, ∀ code ∈ [sitFirstDayCode, sitAdditionalDaysCode],
      ¬ items.any (isSitItem sit code) → P items →
      P (items ++ [stayItem id shipmentId now weight sit days code]))
    (start : P b.items) : P (b.refreshed t ids shipmentId now weight miles sits).items := by
  have pushes (categories : List BaseCategory) (b : Basket) (kept : P b.items) :
      P (categories.foldl (fun b category => b.push (.base (b.nextId ids) shipmentId category now))
        b).items := by
    induction categories generalizing b with
    | nil => exact kept
    | cons category rest ih => exact ih _ (base _ category kept)
  have ensure (sit : Sit) (mem : sit ∈ sits) (days : Nat) (code : String)
      (known : code ∈ [sitFirstDayCode, sitAdditionalDaysCode]) (b : Basket) (kept : P b.items) :
      P (ensureSitItem ids shipmentId now weight sit days b code).items := by
    unfold ensureSitItem
    split
    · exact refresh (forall₂_modifyFirst (requantified_refreshStay sit weight days) _) kept
    · next none_ => exact stay _ days sit mem code known none_ kept
  have ensures (rest : List Sit) (within : ∀ sit ∈ rest, sit ∈ sits) (b : Basket)
      (kept : P b.items) : P (rest.foldl (ensureSit ids shipmentId now weight) b).items := by
    induction rest generalizing b with
    | nil => exact kept
    | cons sit rest ih =>
      obtain ⟨mem, within⟩ := List.forall_mem_cons.1 within
      refine ih within _ ?_
      unfold ensureSit
      split
      · exact kept
      · exact ensure sit mem _ _ (by decide) _ (ensure sit mem _ _ (by decide) _ kept)
  have added : P (b.addMissing t ids shipmentId now).items := pushes _ b start
  exact ensures sits (fun _ mem => mem) _ (refresh (forall₂_refreshBase _ t weight miles) added)

variable (ids shipmentId now)

theorem length_created_push (b : Basket) (item : LineItem) :
    (b.push item).created.length = b.created.length + 1 := by simp [push]

theorem length_created_pushes {α : Type} (make : Basket → α → LineItem) (xs : List α)
    (b : Basket) :
    (xs.foldl (fun b x => b.push (make b x)) b).created.length =
      b.created.length + xs.length := by
  induction xs generalizing b with
  | nil => rfl
  | cons x rest ih =>
    rw [List.foldl_cons, ih, length_created_push, List.length_cons]
    omega

theorem length_created_addMissing (b : Basket) (t : RateTable) :
    (b.addMissing t ids shipmentId now).created.length ≤ b.created.length + 6 := by
  have few : (t.missingBaseCategories b.items).length ≤ 6 := List.length_filter_le _ _
  have count := length_created_pushes
    (fun b category => .base (b.nextId ids) shipmentId category now)
    (t.missingBaseCategories b.items) b
  unfold addMissing
  omega

theorem length_created_ensureSitItem (b : Basket) (weight : Pounds) (sit : Sit) (days : Nat)
    (code : String) :
    (ensureSitItem ids shipmentId now weight sit days b code).created.length ≤
      b.created.length + 1 := by
  unfold ensureSitItem
  split <;> simp [push]

theorem length_created_ensureSit (b : Basket) (weight : Pounds) (sit : Sit) :
    (ensureSit ids shipmentId now weight b sit).created.length ≤ b.created.length + 2 := by
  unfold ensureSit
  split
  · omega
  · next days _ =>
    have first := length_created_ensureSitItem ids shipmentId now b weight sit days sitFirstDayCode
    exact Nat.le_trans (length_created_ensureSitItem ids shipmentId now _ weight sit days _)
      (by omega)

theorem length_created_ensureSits (b : Basket) (weight : Pounds) (sits : List Sit) :
    (sits.foldl (ensureSit ids shipmentId now weight) b).created.length ≤
      b.created.length + 2 * sits.length := by
  induction sits generalizing b with
  | nil => simp
  | cons sit rest ih =>
    have first := length_created_ensureSit ids shipmentId now b weight sit
    have others := ih (ensureSit ids shipmentId now weight b sit)
    simp only [List.foldl_cons, List.length_cons]
    omega

theorem length_created_refreshed (b : Basket) (t : RateTable) (weight : Pounds) (miles : Miles)
    (sits : List Sit) :
    (b.refreshed t ids shipmentId now weight miles sits).created.length ≤
      b.created.length + 6 + 2 * sits.length := by
  have made := length_created_addMissing ids shipmentId now b t
  have added := length_created_ensureSits ids shipmentId now
    ((b.addMissing t ids shipmentId now).refreshBase t weight miles) weight sits
  simp only [refreshBase] at added
  unfold refreshed refreshBase
  omega

end Basket
end Haulage
