import Haulage.Proofs.Basket.UpToDate

/-! Two recalculations side by side. What a basket is refreshed to and what its items are
charged depends on their codes, SITs, quantities and amounts. It does not depend on how
they are approved, nor on the ids and the time of the run. -/
namespace Haulage

/-- The items are alike in all that a recalculation looks at but the approval. -/
structure LineItem.Alike (x y : LineItem) : Prop where
  tariffCode : y.tariffCode = x.tariffCode
  sitId : y.sitId = x.sitId
  isInvoiced : y.isInvoiced = x.isInvoiced
  quantity1 : y.quantity1 = x.quantity1
  quantity2 : y.quantity2 = x.quantity2
  estimateAmount : y.estimateAmount = x.estimateAmount
  actualAmount : y.actualAmount = x.actualAmount

namespace LineItem.Alike
variable {x y : LineItem}

theorem refl (x : LineItem) : x.Alike x := ⟨rfl, rfl, rfl, rfl, rfl, rfl, rfl⟩

theorem lineItemCharge {c c' : Calculator} (alike : x.Alike y) (rates : c'.rates = c.rates)
    (shipment : Shipment) (discount : DiscountRate) :
    c'.lineItemCharge y shipment discount = c.lineItemCharge x shipment discount := by
  simp only [Calculator.lineItemCharge, billingUnits, LineItem.billedAmount, rates,
    alike.tariffCode, alike.quantity1, alike.quantity2, alike.estimateAmount, alike.actualAmount]

theorem hasPricingBasis (alike : x.Alike y) (tariff : TariffItem) :
    y.hasPricingBasis tariff = x.hasPricingBasis tariff := by
  simp only [LineItem.hasPricingBasis, alike.quantity1, alike.estimateAmount, alike.actualAmount]

theorem baseCategory? (alike : x.Alike y) (t : RateTable) :
    t.baseCategory? y = t.baseCategory? x :=
  RateTable.baseCategory?_congr alike.tariffCode alike.sitId

theorem refreshBaseItem (alike : x.Alike y) (t : RateTable) (weight : Pounds) (miles : Miles) :
    (t.refreshBaseItem weight miles x).Alike (t.refreshBaseItem weight miles y) := by
  unfold RateTable.refreshBaseItem
  rw [alike.isInvoiced, alike.baseCategory? t]
  split
  · exact alike
  · split
    · exact { alike with quantity1 := rfl, quantity2 := rfl }
    · exact alike

theorem refreshStay (alike : x.Alike y) (sit : Sit) (weight : Pounds) (days : Nat) :
    (Basket.refreshStay sit weight days x).Alike (Basket.refreshStay sit weight days y) := by
  unfold Basket.refreshStay
  rw [alike.isInvoiced]
  split
  · exact alike
  · exact {
      alike with
      quantity1 := rfl
      quantity2 := by simp only [Basket.withStay, alike.tariffCode] }

end LineItem.Alike

namespace Basket

section Lists
variable {α β : Type} {R : α → β → Prop} {xs : List α} {ys : List β} {p : α → Bool} {q : β → Bool}
  {f : α → α} {g : β → β}

theorem any_of_forall₂ (related : xs.Forall₂ R ys) (test : ∀ {x y}, R x y → q y = p x) :
    ys.any q = xs.any p := by
  induction related with
  | nil => rfl
  | cons h _ ih => rw [List.any_cons, List.any_cons, test h, ih]

theorem modifyFirst_of_forall₂ (related : xs.Forall₂ R ys) (test : ∀ {x y}, R x y → q y = p x)
    (step : ∀ {x y}, R x y → R (f x) (g y)) :
    (modifyFirst p f xs).Forall₂ R (modifyFirst q g ys) := by
  induction related with
  | nil => exact .nil
  | cons h rest ih =>
    rw [modifyFirst, modifyFirst, test h]
    split
    · exact .cons (step h) rest
    · exact .cons h ih

theorem filterMap_of_forall₂ {γ : Type} {h : α → Option γ} {k : β → Option γ}
    (related : xs.Forall₂ R ys) (same : ∀ {x y}, R x y → k y = h x) :
    ys.filterMap k = xs.filterMap h := by
  induction related with
  | nil => rfl
  | cons here _ ih => rw [List.filterMap_cons, List.filterMap_cons, same here, ih]

end Lists

/-- The items are alike, and have the same id unless the first has been made. -/
def Paired (made : List LineItemId) (x y : LineItem) : Prop :=
  x.Alike y ∧ (y.id = x.id ∨ x.id ∈ made)

/-- The items of the baskets are paired one by one. -/
def Alike (b c : Basket) : Prop := b.items.Forall₂ (Paired b.created) c.items

namespace Alike
variable {b c : Basket} {t : RateTable} {ids ids' : IdSupply} {shipmentId : ShipmentId}
  {now now' : Timestamp} {weight : Pounds} {miles : Miles} {sits : List Sit} {sit : Sit}
  {x y : LineItem}

theorem push (alike : b.Alike c) (same : x.Alike y) : (b.push x).Alike (c.push y) := by
  have older : b.items.Forall₂ (Paired (b.push x).created) c.items :=
    List.Forall₂.imp (fun _ _ h => ⟨h.1, h.2.imp_right (List.mem_append_left _)⟩) alike
  have newest : Paired (b.push x).created x y := ⟨same, .inr (by simp [Basket.push])⟩
  exact List.rel_append older (.cons newest .nil)

theorem addMissing (alike : b.Alike c) :
    (b.addMissing t ids shipmentId now).Alike (c.addMissing t ids' shipmentId now') := by
  have missing : t.missingBaseCategories c.items = t.missingBaseCategories b.items := by
    unfold RateTable.missingBaseCategories
    rw [filterMap_of_forall₂ alike fun h => h.1.baseCategory? t]
  unfold Basket.addMissing
  rw [missing]
  clear missing
  generalize t.missingBaseCategories b.items = categories
  induction categories generalizing b c with
  | nil => exact alike
  | cons category rest ih => exact ih (alike.push ⟨rfl, rfl, rfl, rfl, rfl, rfl, rfl⟩)

theorem refreshBase (alike : b.Alike c) :
    (b.refreshBase t weight miles).Alike (c.refreshBase t weight miles) := by
  refine List.forall₂_map_left_iff.2 (List.forall₂_map_right_iff.2 ?_)
  refine List.Forall₂.imp (fun x y h => ⟨h.1.refreshBaseItem t weight miles, ?_⟩) alike
  rw [(requantified_refreshBaseItem t weight miles x).id_eq,
    (requantified_refreshBaseItem t weight miles y).id_eq]
  exact h.2

theorem ensureSitItem {days : Nat} {code : String} (alike : b.Alike c) :
    (ensureSitItem ids shipmentId now weight sit days b code).Alike
      (ensureSitItem ids' shipmentId now' weight sit days c code) := by
  have test {x y : LineItem} (h : Paired b.created x y) :
      isSitItem sit code y = isSitItem sit code x := isSitItem_congr h.1.tariffCode h.1.sitId
  unfold Basket.ensureSitItem
  rw [any_of_forall₂ alike test]
  split
  · refine modifyFirst_of_forall₂ alike test fun {x y} h => ⟨h.1.refreshStay sit weight days, ?_⟩
    rw [(requantified_refreshStay sit weight days x).id_eq,
      (requantified_refreshStay sit weight days y).id_eq]
    exact h.2
  · exact alike.push ⟨rfl, rfl, rfl, rfl, rfl, rfl, rfl⟩

theorem ensureSits (alike : b.Alike c) :
    (sits.foldl (ensureSit ids shipmentId now weight) b).Alike
      (sits.foldl (ensureSit ids' shipmentId now' weight) c) := by
  induction sits generalizing b c with
  | nil => exact alike
  | cons sit rest ih =>
    refine ih ?_
    unfold ensureSit
    split
    · exact alike
    · exact alike.ensureSitItem.ensureSitItem

theorem refreshed (alike : b.Alike c) :
    (b.refreshed t ids shipmentId now weight miles sits).Alike
      (c.refreshed t ids' shipmentId now' weight miles sits) :=
  alike.addMissing.refreshBase.ensureSits

end Alike
end Basket
end Haulage
