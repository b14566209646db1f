import Haulage.Proofs.BaseCharges
import Mathlib.Data.List.Perm.Basic

/-! What the two checks of a basket's base charges have to do with each other. One looks for
categories without a base item, the other counts those of each category. As there are six
categories, none is without an item among six exactly if each has one; so the checks agree once
the base items are counted. -/
namespace Haulage

namespace BaseCategory

/-- Among categories, the occurrences of all of them make up the whole. -/
theorem count_add_count (categories : List BaseCategory) :
    categories.count linehaul + categories.count originServiceCharge +
      categories.count destinationServiceCharge + categories.count pack +
      categories.count unpack + categories.count fuelSurcharge = categories.length := by
  induction categories with
  | nil => rfl
  | cons category rest ih =>
    simp only [List.count_cons, List.length_cons]
    cases category <;> simp <;> omega

/-- In as many places as there are categories, all occur exactly if each occurs once. -/
theorem forall_count_eq_one {categories : List BaseCategory} :
    (∀ category, categories.count category = 1) ↔
      (∀ category, category ∈ categories) ∧ categories.length = 6 := by
  have total := count_add_count categories
  constructor
  · intro once
    simp only [once] at total
    refine ⟨fun category => List.count_pos_iff.1 ?_, total.symm⟩
    rw [once]
    exact Nat.one_pos
  · rintro ⟨occurs, six⟩
    have least (category : BaseCategory) : 0 < categories.count category :=
      List.count_pos_iff.2 (occurs category)
    have := least .linehaul
    have := least .originServiceCharge
    have := least .destinationServiceCharge
    have := least .pack
    have := least .unpack
    have := least .fuelSurcharge
    intro category
    cases category <;> omega

end BaseCategory

namespace RateTable
open BaseCategory
variable {t : RateTable} {category : BaseCategory} {item : LineItem} {items others : List LineItem}

/-- A base item of the category: it has the code, is tied to no SIT, and its tariff item, if there
is one, needs no pre-approval. -/
def isBaseOf (t : RateTable) (category : BaseCategory) (item : LineItem) : Bool :=
  item.tariffCode = category.code ∧ item.sitId = none ∧
    ∀ tariff ∈ t.items.get? item.tariffCode, tariff.requiresPreApproval = false

def isBase (t : RateTable) (item : LineItem) : Bool := all.any (t.isBaseOf · item)

theorem baseCategory?_eq_some_iff :
    t.baseCategory? item = some category ↔ t.isBaseOf category item := by
  rw [baseCategory?_eq_some, chargedBy_iff, isBaseOf, decide_eq_true_eq, and_assoc]
  refine and_congr_right fun code => and_congr_right fun _ => ?_
  rw [flags, ← code]
  cases t.items.get? item.tariffCode <;> simp

theorem isSome_baseCategory? : (t.baseCategory? item).isSome = t.isBase item := by
  rw [Bool.eq_iff_iff, Option.isSome_iff_exists, isBase, List.any_eq_true]
  simp only [baseCategory?_eq_some_iff, mem_all, true_and]

theorem baseCount_eq_countP : t.baseCount items category = items.countP (t.isBaseOf category) := by
  rw [baseCount_eq_count, List.count_filterMap]
  refine List.countP_congr fun item _ => ?_
  rw [beq_iff_eq, baseCategory?_eq_some_iff]

theorem filterMap_filter_isBase (items : List LineItem) :
    (items.filter t.isBase).filterMap t.baseCategory? = items.filterMap t.baseCategory? := by
  rw [List.filterMap_filter]
  refine List.filterMap_congr fun item _ => ?_
  rw [← isSome_baseCategory?]
  cases t.baseCategory? item <;> rfl

/-- Other items may come and go, and all may change places. -/
theorem perm_filterMap_baseCategory?
    (same : (others.filter t.isBase).Perm (items.filter t.isBase)) :
    (others.filterMap t.baseCategory?).Perm (items.filterMap t.baseCategory?) := by
  rw [← filterMap_filter_isBase, ← filterMap_filter_isBase items]
  exact same.filterMap _

theorem missingBaseCategories_congr (same : (others.filter t.isBase).Perm (items.filter t.isBase)) :
    t.missingBaseCategories others = t.missingBaseCategories items := by
  unfold missingBaseCategories
  refine List.filter_congr fun category _ => ?_
  rw [decide_eq_decide, (perm_filterMap_baseCategory? same).mem_iff]

theorem verifyBaseItems_congr (same : (others.filter t.isBase).Perm (items.filter t.isBase)) :
    t.verifyBaseItems others = t.verifyBaseItems items := by
  have counts : t.baseCount others = t.baseCount items := by
    funext category
    rw [baseCount_eq_count, baseCount_eq_count, (perm_filterMap_baseCategory? same).count_eq]
  simp only [verifyBaseItems, counts]

theorem mem_missingBaseCategories_iff :
    category ∈ t.missingBaseCategories items ↔ ∀ item ∈ items, ¬ t.isBaseOf category item := by
  rw [missingBaseCategories, List.mem_filter, decide_eq_true_eq, and_iff_right (mem_all category)]
  simp only [List.mem_filterMap, baseCategory?_eq_some_iff, not_exists, not_and]

theorem verifyBaseItems_ok_iff :
    t.verifyBaseItems items = .ok () ↔
      t.missingBaseCategories items = [] ∧ items.countP t.isBase = all.length := by
  have counts : t.verifyBaseItems items = .ok () ↔ ∀ category, t.baseCount items category = 1 := by
    simp only [verifyBaseItems_eq_ok, baseCount_eq, ite_eq_iff]
    simp
  have present : t.missingBaseCategories items = [] ↔
      ∀ category, category ∈ items.filterMap t.baseCategory? := by
    simp [missingBaseCategories, List.filter_eq_nil_iff, mem_all]
  have baseItems : items.countP t.isBase = (items.filterMap t.baseCategory?).length := by
    simp only [List.length_filterMap_eq_countP, isSome_baseCategory?]
  rw [counts, present, baseItems]
  simp only [baseCount_eq_count]
  exact forall_count_eq_one

/-- The failure that names a category and its number of base items. -/
def miscounted (category : BaseCategory) (count : Nat) : Error :=
  .invalid "line_items" s!"expected exactly one {category.code} base line item, found {count}"

/-- The category named is the first in the order of `all` that has not one base item. -/
theorem verifyBaseItems_eq_error {e : Error} :
    t.verifyBaseItems items = .error e ↔
      ∃ before category after, all = before ++ category :: after ∧
        (∀ earlier ∈ before, items.countP (t.isBaseOf earlier) = 1) ∧
        items.countP (t.isBaseOf category) ≠ 1 ∧
        e = miscounted category (items.countP (t.isBaseOf category)) := by
  simp only [← baseCount_eq_countP]
  have first (category : BaseCategory) :
      all.find? (fun other => t.baseCount items other ≠ 1) = some category ↔
        ∃ before after, all = before ++ category :: after ∧
          (∀ earlier ∈ before, t.baseCount items earlier = 1) ∧
          t.baseCount items category ≠ 1 := by
    simp only [List.find?_eq_some_iff_append, ne_eq, decide_not, Bool.not_eq_true',
      decide_eq_false_iff_not, Bool.not_not, decide_eq_true_eq]
    tauto
  constructor
  · intro failed
    unfold verifyBaseItems at failed
    split at failed
    · contradiction
    · next category found =>
      obtain ⟨before, after, order, once, other⟩ := (first category).1 found
      exact ⟨before, category, after, order, once, other, (Except.error.inj failed).symm⟩
  · rintro ⟨before, category, after, order, once, other, rfl⟩
    have found := (first category).2 ⟨before, after, order, once, other⟩
    rw [verifyBaseItems, found]
    rfl

/-- The two checks agree. Lists that differ in the order of their items, and in items that are no
base items, meet the same fate. -/
theorem baseVerification_agrees (t : RateTable) (items : List LineItem) :
    (t.verifyBaseItems items = .ok () ↔
      t.missingBaseCategories items = [] ∧ items.countP t.isBase = 6) ∧
    (t.missingBaseCategories items).Sublist all ∧ (t.missingBaseCategories items).Nodup ∧
    (∀ category, category ∈ t.missingBaseCategories items ↔
      ∀ item ∈ items, ¬ t.isBaseOf category item) ∧
    (∀ others : List LineItem, (others.filter t.isBase).Perm (items.filter t.isBase) →
      t.missingBaseCategories others = t.missingBaseCategories items ∧
      t.verifyBaseItems others = t.verifyBaseItems items) ∧
    ∀ e, t.verifyBaseItems items = .error e →
      ∃ before category after, all = before ++ category :: after ∧
        (∀ earlier ∈ before, items.countP (t.isBaseOf earlier) = 1) ∧
        items.countP (t.isBaseOf category) ≠ 1 ∧
        e = miscounted category (items.countP (t.isBaseOf category)) := by
  have ordered : (t.missingBaseCategories items).Sublist all := List.filter_sublist
  refine ⟨verifyBaseItems_ok_iff, ordered, ordered.nodup (by decide),
    fun _ => mem_missingBaseCategories_iff, fun _ same => ?_, fun _ => verifyBaseItems_eq_error.1⟩
  exact ⟨missingBaseCategories_congr same, verifyBaseItems_congr same⟩

end RateTable
end Haulage
