import Haulage.Proofs.Age
import Haulage.Proofs.Basket.Growth

/-! A basket that is up to date has every base charge and, for every completed stay, both
of its items, all with current quantities. The steps of recalculation bring a basket up
to date, and find nothing to do in one that is. -/
namespace Haulage

namespace RateTable
variable {t : RateTable} {weight : Pounds} {miles : Miles} {item item' : LineItem}

/-- No code of a base charge needs pre-approval. -/
def OpenBaseCodes (t : RateTable) : Prop :=
  ∀ category ∈ BaseCategory.all, ∀ tariff ∈ t.items.get? category.code,
    tariff.requiresPreApproval = false

instance : Decidable t.OpenBaseCodes :=
  inferInstanceAs (Decidable (∀ category ∈ BaseCategory.all,
    ∀ tariff ∈ t.items.get? category.code, tariff.requiresPreApproval = false))

theorem baseCategory?_congr (code : item'.tariffCode = item.tariffCode)
    (sit : item'.sitId = item.sitId) : t.baseCategory? item' = t.baseCategory? item := by
  simp only [baseCategory?, code, sit]

theorem baseCategory?_of_sit (stored : item.sitId.isSome) : t.baseCategory? item = none := by
  unfold baseCategory?
  split
  · simp [stored]
  · rfl

theorem baseCategory?_base (openCodes : t.OpenBaseCodes) (id : LineItemId)
    (shipmentId : ShipmentId) (category : BaseCategory) (now : Timestamp) :
    t.baseCategory? (.base id shipmentId category now) = some category := by
  have known : BaseCategory.ofCode? category.code = some category := by cases category <;> decide
  have allowed : (t.items.get? category.code).any (·.requiresPreApproval) = false := by
    cases found : t.items.get? category.code with
    | none => rfl
    | some tariff => exact openCodes category (by cases category <;> decide) tariff found
  simp [baseCategory?, LineItem.base, LineItem.approvedNow, LineItem.submitted, known, allowed]

theorem refreshBaseItem_of_sit (stored : item.sitId.isSome) :
    t.refreshBaseItem weight miles item = item := by
  unfold refreshBaseItem
  rw [baseCategory?_of_sit stored]
  split <;> rfl

theorem refreshBaseItem_refreshBaseItem :
    t.refreshBaseItem weight miles (t.refreshBaseItem weight miles item) =
      t.refreshBaseItem weight miles item := by
  by_cases invoiced : item.isInvoiced
  · simp only [refreshBaseItem, invoiced, if_true]
  · cases category : t.baseCategory? item with
    | none => simp only [refreshBaseItem, invoiced, category, if_false, Bool.false_eq_true]
    | some category' =>
      have kept : (item.withBaseQuantities category' weight miles).isInvoiced = false :=
        Bool.eq_false_iff.2 invoiced
      have same : t.baseCategory? (item.withBaseQuantities category' weight miles) =
          some category' := category ▸ baseCategory?_congr rfl rfl
      simp only [refreshBaseItem, invoiced, category, kept, same, if_false, Bool.false_eq_true]
      rfl

end RateTable

namespace Basket
open LineItem (Requantified Made)

section First
variable {α : Type} {p q : α → Bool} {f : α → α} {xs : List α}

theorem mem_modifyFirst {y : α} (mem : y ∈ modifyFirst p f xs) :
    y ∈ xs ∨ ∃ x, xs.find? p = some x ∧ y = f x := by
  induction xs with
  | nil => contradiction
  | cons x rest ih =>
    rw [modifyFirst] at mem
    split at mem
    · next here =>
      rcases List.mem_cons.1 mem with rfl | mem
      · exact .inr ⟨x, by rw [List.find?_cons, here], rfl⟩
      · exact .inl (List.mem_cons_of_mem _ mem)
    · next other =>
      rcases List.mem_cons.1 mem with rfl | mem
      · exact .inl List.mem_cons_self
      · rcases ih mem with mem | ⟨z, found, same⟩
        · exact .inl (List.mem_cons_of_mem _ mem)
        · exact .inr ⟨z, by rw [List.find?_cons, Bool.eq_false_iff.2 other, found], same⟩

theorem modifyFirst_of_find? {x : α} (found : xs.find? p = some x) (same : f x = x) :
    modifyFirst p f xs = xs := by
  induction xs with
  | nil => rfl
  | cons y rest ih =>
    rw [List.find?_cons] at found
    rw [modifyFirst]
    cases here : p y with
    | true =>
      simp only [here, Option.some.injEq] at found
      rw [if_pos rfl, found, same]
    | false =>
      simp only [here] at found
      rw [if_neg Bool.false_ne_true, ih found]

theorem find?_modifyFirst (same : ∀ x, p (f x) = p x) :
    (modifyFirst p f xs).find? p = (xs.find? p).map f := by
  induction xs with
  | nil => rfl
  | cons x rest ih =>
    rw [modifyFirst]
    cases here : p x <;> simp [here, same, ih]

theorem filter_modifyFirst_of_disjoint (apart : ∀ x, p x → q x = false ∧ q (f x) = false) :
    (modifyFirst p f xs).filter q = xs.filter q := by
  induction xs with
  | nil => rfl
  | cons x rest ih =>
    rw [modifyFirst]
    cases here : p x with
    | true => simp [apart x here]
    | false => simp [List.filter_cons, ih]

theorem find?_modifyFirst_of_disjoint (apart : ∀ x, p x → q x = false ∧ q (f x) = false) :
    (modifyFirst p f xs).find? q = xs.find? q := by
  rw [← List.head?_filter, filter_modifyFirst_of_disjoint apart, List.head?_filter]

end First

variable {sit sit' : Sit} {code code' : String} {weight : Pounds} {days days' : Nat}
  {item item' : LineItem} {items items' : List LineItem}

theorem isSitItem_congr (code_ : item'.tariffCode = item.tariffCode)
    (sit_ : item'.sitId = item.sitId) : isSitItem sit code item' = isSitItem sit code item := by
  simp only [isSitItem, code_, sit_]

theorem isSitItem_eq_true :
    isSitItem sit code item = true ↔ item.sitId = some sit.id ∧ item.tariffCode = code := by
  simp [isSitItem]

theorem isSitItem_of_apart (apart : sit'.id ≠ sit.id ∨ code' ≠ code)
    (here : isSitItem sit' code' item) : isSitItem sit code item = false := by
  obtain ⟨stored, coded⟩ := isSitItem_eq_true.1 here
  rw [Bool.eq_false_iff]
  intro also
  obtain ⟨stored', coded'⟩ := isSitItem_eq_true.1 also
  rcases apart with other | other
  · exact other (Option.some.inj (stored.symm.trans stored'))
  · exact other (coded.symm.trans coded')

theorem refreshStay_refreshStay :
    refreshStay sit weight days (refreshStay sit weight days item) =
      refreshStay sit weight days item := by
  by_cases invoiced : item.isInvoiced
  · simp only [refreshStay, invoiced, if_true]
  · have kept : (withStay item sit weight days).isInvoiced = false := Bool.eq_false_iff.2 invoiced
    simp only [refreshStay, invoiced, kept, if_false, Bool.false_eq_true]
    rfl

/-- The first item of the stay under this code exists and has nothing to refresh. -/
def Settled (items : List LineItem) (weight : Pounds) (sit : Sit) (days : Nat) (code : String) :
    Prop :=
  ∃ item, items.find? (isSitItem sit code) = some item ∧ refreshStay sit weight days item = item

variable {ids : IdSupply} {shipmentId : ShipmentId} {now : Timestamp} {b : Basket}

theorem isSitItem_refreshStay :
    isSitItem sit code (refreshStay sit' weight days item) = isSitItem sit code item :=
  isSitItem_congr (requantified_refreshStay sit' weight days item).tariffCode_eq
    (requantified_refreshStay sit' weight days item).sitId_eq

theorem isSitItem_stayItem (id : LineItemId) :
    isSitItem sit' code' (stayItem id shipmentId now weight sit days code) = true ↔
      sit.id = sit'.id ∧ code = code' := by
  simp [isSitItem, stayItem, withStay, LineItem.approvedNow, LineItem.submitted]

theorem refreshStay_stayItem (id : LineItemId) :
    refreshStay sit weight days (stayItem id shipmentId now weight sit days code) =
      stayItem id shipmentId now weight sit days code := rfl

theorem settled_ensureSitItem :
    Settled (ensureSitItem ids shipmentId now weight sit days b code).items weight sit days
      code := by
  unfold ensureSitItem
  split
  · next some_ =>
    obtain ⟨item, found⟩ :=
      Option.isSome_iff_exists.1 (List.find?_isSome.2 (List.any_eq_true.1 some_))
    refine ⟨refreshStay sit weight days item, ?_, refreshStay_refreshStay⟩
    rw [find?_modifyFirst fun _ => isSitItem_refreshStay, found, Option.map_some]
  · next none_ =>
    have before : b.items.find? (isSitItem sit code) = none := by simpa using none_
    have here : isSitItem sit code (stayItem (b.nextId ids) shipmentId now weight sit days code) :=
      (isSitItem_stayItem _).2 ⟨rfl, rfl⟩
    refine ⟨stayItem (b.nextId ids) shipmentId now weight sit days code, ?_,
      refreshStay_stayItem _⟩
    simp only [push, List.find?_append, before, Option.none_or, List.find?_singleton, here, if_true]

/-- The items of a stay are left alone where another stay or code is looked at. -/
theorem Settled.ensureSitItem (settled : Settled b.items weight sit days code)
    (apart : sit'.id ≠ sit.id ∨ code' ≠ code) :
    Settled (ensureSitItem ids shipmentId now weight sit' days' b code').items weight sit days
      code := by
  obtain ⟨item, found, same⟩ := settled
  refine ⟨item, ?_, same⟩
  unfold Basket.ensureSitItem
  split
  · rw [← found]
    refine find?_modifyFirst_of_disjoint fun x here => ?_
    rw [isSitItem_refreshStay]
    exact ⟨isSitItem_of_apart apart here, isSitItem_of_apart apart here⟩
  · simp only [push, List.find?_append, found, Option.some_or]

theorem ensureSitItem_of_settled (settled : Settled b.items weight sit days code) :
    ensureSitItem ids shipmentId now weight sit days b code = b := by
  obtain ⟨item, found, same⟩ := settled
  have some_ : b.items.any (isSitItem sit code) :=
    List.any_eq_true.2 ⟨item, List.mem_of_find?_eq_some found, List.find?_some found⟩
  rw [ensureSitItem, if_pos some_, modifyFirst_of_find? found same]

variable {t : RateTable} {miles : Miles} {sits : List Sit}

/-- Both items of the stay, if it is completed, are there and current. -/
def StaySettled (items : List LineItem) (weight : Pounds) (sit : Sit) : Prop :=
  ∀ days, sit.chargeableDays? = some days →
    Settled items weight sit days sitFirstDayCode ∧
    Settled items weight sit days sitAdditionalDaysCode

theorem StaySettled.settled (settled : StaySettled items weight sit)
    (completed : sit.chargeableDays? = some days)
    (known : code ∈ [sitFirstDayCode, sitAdditionalDaysCode]) :
    Settled items weight sit days code := by
  obtain ⟨first, additional⟩ := settled days completed
  rcases List.mem_cons.1 known with rfl | known
  · exact first
  · obtain rfl := List.mem_singleton.1 known
    exact additional

/-- Recalculation finds nothing to make and nothing to refresh. -/
structure UpToDate (t : RateTable) (weight : Pounds) (miles : Miles) (sits : List Sit)
    (items : List LineItem) : Prop where
  complete : ∀ category ∈ BaseCategory.all, ∃ item ∈ items, t.baseCategory? item = some category
  base : ∀ item ∈ items, t.refreshBaseItem weight miles item = item
  stays : ∀ sit ∈ sits, StaySettled items weight sit

theorem ensureSit_of_staySettled (settled : StaySettled b.items weight sit) :
    ensureSit ids shipmentId now weight b sit = b := by
  unfold ensureSit
  split
  · rfl
  · next days completed =>
    obtain ⟨first, additional⟩ := settled days completed
    rw [List.foldl_cons, ensureSitItem_of_settled first, List.foldl_cons,
      ensureSitItem_of_settled additional, List.foldl_nil]

theorem staySettled_ensureSit :
    StaySettled (ensureSit ids shipmentId now weight b sit).items weight sit := by
  intro days completed
  have codes : sitAdditionalDaysCode ≠ sitFirstDayCode := by decide
  simp only [ensureSit, completed, List.foldl_cons, List.foldl_nil]
  exact ⟨settled_ensureSitItem.ensureSitItem (.inr codes), settled_ensureSitItem⟩

theorem StaySettled.ensureSit (settled : StaySettled b.items weight sit)
    (other : sit'.id ≠ sit.id) :
    StaySettled (ensureSit ids shipmentId now weight b sit').items weight sit := by
  intro days completed
  obtain ⟨first, additional⟩ := settled days completed
  unfold Basket.ensureSit
  split
  · exact ⟨first, additional⟩
  · exact ⟨(first.ensureSitItem (.inl other)).ensureSitItem (.inl other),
      (additional.ensureSitItem (.inl other)).ensureSitItem (.inl other)⟩

theorem StaySettled.ensureSits (settled : StaySettled b.items weight sit)
    (others : ∀ sit' ∈ sits, sit'.id ≠ sit.id) :
    StaySettled (sits.foldl (Basket.ensureSit ids shipmentId now weight) b).items weight sit := by
  induction sits generalizing b with
  | nil => exact settled
  | cons sit' rest ih =>
    obtain ⟨other, others⟩ := List.forall_mem_cons.1 others
    exact ih (settled.ensureSit other) others

theorem staySettled_ensureSits (distinct : (sits.map Sit.id).Nodup) (mem : sit ∈ sits) :
    StaySettled (sits.foldl (ensureSit ids shipmentId now weight) b).items weight sit := by
  induction sits generalizing b with
  | nil => contradiction
  | cons sit' rest ih =>
    obtain ⟨apart, distinct⟩ := List.nodup_cons.1 distinct
    rcases List.mem_cons.1 mem with rfl | mem
    · exact staySettled_ensureSit.ensureSits fun sit' mem' same =>
        apart (same ▸ List.mem_map_of_mem mem')
    · exact ih distinct mem

theorem subset_pushes {α : Type} (make : Basket → α → LineItem) (xs : List α) :
    b.items ⊆ (xs.foldl (fun b x => b.push (make b x)) b).items := by
  induction xs generalizing b with
  | nil => exact List.Subset.refl _
  | cons x rest ih => exact fun _ mem => ih (List.mem_append_left _ mem)

theorem exists_mem_pushes {α : Type} (make : Basket → α → LineItem) {xs : List α} {x : α}
    (mem : x ∈ xs) : ∃ b', make b' x ∈ (xs.foldl (fun b x => b.push (make b x)) b).items := by
  induction xs generalizing b with
  | nil => contradiction
  | cons y rest ih =>
    rcases List.mem_cons.1 mem with rfl | mem
    · exact ⟨b, subset_pushes make rest (List.mem_append_right _ List.mem_cons_self)⟩
    · exact ih mem

theorem complete_addMissing (openCodes : t.OpenBaseCodes) {category : BaseCategory}
    (mem : category ∈ BaseCategory.all) :
    ∃ item ∈ (b.addMissing t ids shipmentId now).items, t.baseCategory? item = some category := by
  by_cases present : category ∈ b.items.filterMap t.baseCategory?
  · obtain ⟨item, memItem, same⟩ := List.mem_filterMap.1 present
    exact ⟨item, subset_pushes _ _ memItem, same⟩
  · have missing : category ∈ t.missingBaseCategories b.items :=
      List.mem_filter.2 ⟨mem, decide_eq_true present⟩
    obtain ⟨b', made⟩ := exists_mem_pushes
      (fun b category => .base (b.nextId ids) shipmentId category now) missing
    exact ⟨_, made, RateTable.baseCategory?_base openCodes _ _ _ _⟩

theorem Grows.complete {c : Basket} (grows : Grows ids shipmentId now b c)
    {category : BaseCategory} (has : ∃ item ∈ b.items, t.baseCategory? item = some category) :
    ∃ item ∈ c.items, t.baseCategory? item = some category := by
  obtain ⟨old, mem, same⟩ := has
  obtain ⟨item, mem', kept⟩ := grows.kept mem
  exact ⟨item, mem', same ▸ RateTable.baseCategory?_congr kept.tariffCode_eq kept.sitId_eq⟩

theorem base_refreshBase :
    ∀ item ∈ (b.refreshBase t weight miles).items, t.refreshBaseItem weight miles item = item := by
  intro item mem
  obtain ⟨old, _, rfl⟩ := List.mem_map.1 mem
  exact RateTable.refreshBaseItem_refreshBaseItem

/-- Items of a stay are no base items, so what is done to them does not matter to these. -/
theorem base_ensureSitItem
    (base : ∀ item ∈ b.items, t.refreshBaseItem weight miles item = item) :
    ∀ item ∈ (ensureSitItem ids shipmentId now weight sit days b code).items,
      t.refreshBaseItem weight miles item = item := by
  intro item mem
  unfold ensureSitItem at mem
  split at mem
  · rcases mem_modifyFirst mem with mem | ⟨old, found, rfl⟩
    · exact base item mem
    · have here := List.find?_some found
      refine RateTable.refreshBaseItem_of_sit ?_
      rw [(requantified_refreshStay sit weight days old).sitId_eq, (isSitItem_eq_true.1 here).1]
      rfl
  · rcases List.mem_append.1 mem with mem | mem
    · exact base item mem
    · obtain rfl := List.mem_singleton.1 mem
      exact RateTable.refreshBaseItem_of_sit rfl

theorem base_ensureSits (base : ∀ item ∈ b.items, t.refreshBaseItem weight miles item = item) :
    ∀ item ∈ (sits.foldl (ensureSit ids shipmentId now weight) b).items,
      t.refreshBaseItem weight miles item = item := by
  induction sits generalizing b with
  | nil => exact base
  | cons sit rest ih =>
    refine ih ?_
    unfold ensureSit
    split
    · exact base
    · exact base_ensureSitItem (base_ensureSitItem base)

theorem upToDate_refreshed (openCodes : t.OpenBaseCodes) (distinct : (sits.map Sit.id).Nodup) :
    UpToDate t weight miles sits (b.refreshed t ids shipmentId now weight miles sits).items where
  complete _ mem :=
    ((refreshBase_grows _ t weight miles).trans (ensureSits_grows _ weight sits)).complete
      (complete_addMissing openCodes mem)
  base := base_ensureSits base_refreshBase
  stays _ mem := staySettled_ensureSits distinct mem

theorem refreshed_of_upToDate (upToDate : UpToDate t weight miles sits b.items) :
    b.refreshed t ids shipmentId now weight miles sits = b := by
  have nothing : t.missingBaseCategories b.items = [] := by
    refine List.filter_eq_nil_iff.2 fun category mem => ?_
    obtain ⟨item, memItem, same⟩ := upToDate.complete category mem
    simpa using ⟨item, memItem, same⟩
  have same : b.items.map (t.refreshBaseItem weight miles) = b.items := by
    rw [List.map_congr_left upToDate.base, List.map_id']
  have settled : ∀ sit ∈ sits, ensureSit ids shipmentId now weight b sit = b :=
    fun sit mem => ensureSit_of_staySettled (upToDate.stays sit mem)
  rw [refreshed, addMissing, nothing, List.foldl_nil, refreshBase, same]
  clear upToDate
  induction sits with
  | nil => rfl
  | cons sit rest ih =>
    obtain ⟨here, settled⟩ := List.forall_mem_cons.1 settled
    rw [List.foldl_cons, here, ih settled]

/-- The items of every stay and code stand in the order of age. -/
def StaysInOrder (items : List LineItem) : Prop :=
  ∀ (sit : Sit) (code : String),
    (items.filter (isSitItem sit code)).Pairwise (Precedes LineItem.createdAt LineItem.id)

theorem pairwise_of_forall₂ (changed : items.Forall₂ Requantified items')
    (ordered : items.Pairwise (Precedes LineItem.createdAt LineItem.id)) :
    items'.Pairwise (Precedes LineItem.createdAt LineItem.id) := by
  induction changed with
  | nil => exact .nil
  | @cons old item olds items h changed ih =>
    obtain ⟨first, ordered⟩ := List.pairwise_cons.1 ordered
    refine List.pairwise_cons.2 ⟨fun item' mem => ?_, ih ordered⟩
    obtain ⟨old', mem', h'⟩ := exists_before changed mem
    have before := first old' mem'
    rwa [Precedes, ← h.createdAt_eq, ← h.id_eq, ← h'.createdAt_eq, ← h'.id_eq] at before

theorem StaysInOrder.of_forall₂ (ordered : StaysInOrder items)
    (changed : items.Forall₂ Requantified items') : StaysInOrder items' := by
  intro sit code
  refine pairwise_of_forall₂ (List.rel_filter (fun a b h => ?_) changed) (ordered sit code)
  show isSitItem sit code a = true ↔ isSitItem sit code b = true
  rw [isSitItem_congr h.tariffCode_eq h.sitId_eq]

theorem StaysInOrder.append (ordered : StaysInOrder items)
    (alone : ∀ (sit : Sit) (code : String), isSitItem sit code item →
      items.filter (isSitItem sit code) = []) : StaysInOrder (items ++ [item]) := by
  intro sit code
  rw [List.filter_append]
  by_cases here : isSitItem sit code item
  · rw [alone sit code here, List.nil_append]
    exact (List.pairwise_singleton _ _).filter _
  · rw [List.filter_cons_of_neg here, List.filter_nil, List.append_nil]
    exact ordered sit code

/-- An item is made for a stay only where the stay has none under the code. -/
theorem StaysInOrder.refreshed (ordered : StaysInOrder b.items) :
    StaysInOrder (b.refreshed t ids shipmentId now weight miles sits).items := by
  refine refreshed_induction (fun changed kept => kept.of_forall₂ changed) ?_ ?_ ordered
  · intro items id category kept
    refine kept.append fun sit code here => ?_
    have tied := (isSitItem_eq_true.1 here).1
    contradiction
  · intro items id days sit _ code _ none_ kept
    refine kept.append fun sit' code' here => List.filter_eq_nil_iff.2 fun item mem also => ?_
    obtain ⟨sameSit, sameCode⟩ := (isSitItem_stayItem _).1 here
    obtain ⟨stored, coded⟩ := isSitItem_eq_true.1 also
    refine none_ (List.any_eq_true.2 ⟨item, mem, isSitItem_eq_true.2 ⟨?_, ?_⟩⟩)
    · rw [stored, sameSit]
    · rw [coded, sameCode]

variable {reprice : LineItem → LineItem}

/-- `reprice` changes no more than amount and rate. -/
def Reprices (reprice : LineItem → LineItem) : Prop :=
  ∀ item, ∃ amount appliedRate, reprice item = item.withPrice amount appliedRate

/-- What does not depend on the price is kept. -/
theorem Reprices.keeps {β : Type} {f : LineItem → β} (reprices : Reprices reprice)
    (blind : ∀ item amount appliedRate, f (item.withPrice amount appliedRate) = f item)
    (item : LineItem) : f (reprice item) = f item := by
  obtain ⟨amount, appliedRate, same⟩ := reprices item
  rw [same, blind]

theorem refreshBaseItem_withPrice (amount : Option Cents) (appliedRate : Option Millicents) :
    t.refreshBaseItem weight miles (item.withPrice amount appliedRate) =
      (t.refreshBaseItem weight miles item).withPrice amount appliedRate := by
  have same : t.baseCategory? (item.withPrice amount appliedRate) = t.baseCategory? item :=
    RateTable.baseCategory?_congr rfl rfl
  have invoiced : (item.withPrice amount appliedRate).isInvoiced = item.isInvoiced := rfl
  rw [RateTable.refreshBaseItem, RateTable.refreshBaseItem, invoiced, same]
  split
  · rfl
  · split <;> rfl

theorem refreshStay_withPrice (amount : Option Cents) (appliedRate : Option Millicents) :
    refreshStay sit weight days (item.withPrice amount appliedRate) =
      (refreshStay sit weight days item).withPrice amount appliedRate := by
  have invoiced : (item.withPrice amount appliedRate).isInvoiced = item.isInvoiced := rfl
  rw [refreshStay, refreshStay, invoiced]
  split <;> rfl

/-- Items of one kind that stand by age, read back with new prices, stand as they stood. -/
theorem filter_reprice {kind : LineItem → Bool} (reprices : Reprices reprice)
    (blind : kind ∘ reprice = kind)
    (ordered : (items.filter kind).Pairwise (Precedes LineItem.createdAt LineItem.id))
    (perm : items'.Perm (items.map reprice))
    (ordered' : items'.Pairwise (Precedes LineItem.createdAt LineItem.id)) :
    items'.filter kind = (items.filter kind).map reprice := by
  have sameOrder : ∀ a b, Precedes LineItem.createdAt LineItem.id a b →
      Precedes LineItem.createdAt LineItem.id (reprice a) (reprice b) := by
    intro a b before
    obtain ⟨_, _, sameA⟩ := reprices a
    obtain ⟨_, _, sameB⟩ := reprices b
    rwa [sameA, sameB]
  refine eq_of_perm_of_precedes ?_ (ordered'.filter _)
    (List.pairwise_map.2 (ordered.imp (sameOrder _ _)))
  have perm' := perm.filter kind
  rwa [List.filter_map, blind] at perm'

theorem filter_isSitItem_reprice (reprices : Reprices reprice) (ordered : StaysInOrder items)
    (perm : items'.Perm (items.map reprice))
    (ordered' : items'.Pairwise (Precedes LineItem.createdAt LineItem.id)) :
    items'.filter (isSitItem sit code) = (items.filter (isSitItem sit code)).map reprice := by
  refine filter_reprice reprices (funext ?_) (ordered sit code) perm ordered'
  exact reprices.keeps fun _ _ _ => isSitItem_congr rfl rfl

/-- A store shows the items of a shipment by age, while a run appends those that it makes. Read
back, the basket is up to date still: the first item of a stay is the same in both orders. -/
theorem UpToDate.of_perm (reprices : Reprices reprice)
    (upToDate : UpToDate t weight miles sits items) (ordered : StaysInOrder items)
    (perm : items'.Perm (items.map reprice))
    (ordered' : items'.Pairwise (Precedes LineItem.createdAt LineItem.id)) :
    UpToDate t weight miles sits items' where
  complete category mem := by
    obtain ⟨item, memItem, same⟩ := upToDate.complete category mem
    obtain ⟨amount, appliedRate, repriced⟩ := reprices item
    refine ⟨reprice item, perm.mem_iff.2 (List.mem_map_of_mem memItem), ?_⟩
    rw [repriced, ← same]
    exact RateTable.baseCategory?_congr rfl rfl
  base item mem := by
    obtain ⟨old, memOld, rfl⟩ := List.mem_map.1 (perm.mem_iff.1 mem)
    obtain ⟨amount, appliedRate, repriced⟩ := reprices old
    rw [repriced, refreshBaseItem_withPrice, upToDate.base old memOld]
  stays sit mem days completed := by
    have keep : ∀ code, Settled items weight sit days code →
        Settled items' weight sit days code := by
      rintro code ⟨item, found, same⟩
      obtain ⟨amount, appliedRate, repriced⟩ := reprices item
      refine ⟨reprice item, ?_, ?_⟩
      · rw [← List.head?_filter, filter_isSitItem_reprice reprices ordered perm ordered',
          List.head?_map, List.head?_filter, found, Option.map_some]
      · rw [repriced, refreshStay_withPrice, same]
    obtain ⟨first, additional⟩ := upToDate.stays sit mem days completed
    exact ⟨keep _ first, keep _ additional⟩

end Basket
end Haulage
