import Haulage.Proofs.Results
import Haulage.Proofs.Validation
import Haulage.Rates

/-! What the indexes of a rate table hold: under a code the first tariff item that has it, and all
rate rows that have it, in the order of the reference data. -/
namespace Haulage

namespace ReferenceData

theorem get?_itemIndex (items : List TariffItem) (code : String) :
    (itemIndex items).get? code = items.find? (·.code = code) := by
  have grow (m : SortedMap String TariffItem) :
      (items.foldl (fun m t => if m.contains t.code then m else m.insert t.code t) m).get? code =
        (m.get? code).or (items.find? (·.code = code)) := by
    induction items generalizing m with
    | nil => simp
    | cons item rest ih =>
      rw [List.foldl_cons, ih, List.find?_cons]
      by_cases taken : m.contains item.code
      · rw [if_pos taken]
        by_cases same : item.code = code
        · obtain ⟨earlier, stored⟩ := Option.isSome_iff_exists.1 taken
          rw [← same, stored]
          rfl
        · simp only [same, decide_false]
      · rw [if_neg taken, SortedMap.get?_insert]
        by_cases same : item.code = code
        · have free : m.get? item.code = none := Option.not_isSome_iff_eq_none.1 taken
          simp only [same, decide_true, if_true]
          rw [← same, free]
          rfl
        · simp only [same, Ne.symm same, decide_false, if_false]
  simpa [itemIndex] using grow .empty

theorem contains_itemIndex {items : List TariffItem} {code : String} :
    (itemIndex items).contains code ↔ ∃ item ∈ items, item.code = code := by
  simp [SortedMap.contains, get?_itemIndex]

theorem get?_rateIndex (rows : List TariffRate) (code : String) :
    ((rateIndex rows).get? code).getD [] = rows.filter (·.code = code) := by
  have grow (m : SortedMap String (List TariffRate)) :
      ((rows.foldl (fun m r => m.upsert r.code fun old => old.getD [] ++ [r]) m).get?
        code).getD [] = (m.get? code).getD [] ++ rows.filter (·.code = code) := by
    induction rows generalizing m with
    | nil => simp
    | cons row rest ih =>
      rw [List.foldl_cons, ih, SortedMap.upsert, SortedMap.get?_insert]
      by_cases same : row.code = code
      · simp [same]
      · simp [same, Ne.symm same]
  simpa [rateIndex] using grow .empty

end ReferenceData

namespace RateTable
variable {data : ReferenceData} {t : RateTable} {code : String} {tariff : TariffItem}

theorem ofReference_eq_ok : ofReference data = .ok t ↔ data.validate.isEmpty ∧
    t = ⟨ReferenceData.itemIndex data.tariffItems, ReferenceData.rateIndex data.rates,
      data.rateAreas, data.regions⟩ := by
  rw [ofReference, bind_eq_ok, ← FieldErrors.check_eq_ok]
  constructor
  · rintro ⟨_, checked, indexed⟩
    exact ⟨checked, (Except.ok.inj indexed).symm⟩
  · rintro ⟨checked, rfl⟩
    exact ⟨(), checked, rfl⟩

theorem ofReference_eq_error {e : Error} : ofReference data = .error e ↔
    data.validate.isEmpty = false ∧ e = .validation data.validate := by
  rw [ofReference, FieldErrors.check]
  cases data.validate.isEmpty with
  | true => exact iff_of_false nofun nofun
  | false =>
    constructor
    · intro refused
      exact ⟨rfl, (Except.error.inj refused).symm⟩
    · rintro ⟨-, rfl⟩
      rfl

/-- A tariff item is found under its own code. -/
theorem code_of_tariffItem (accepted : ofReference data = .ok t)
    (known : t.tariffItem code = .ok tariff) : tariff.code = code := by
  obtain ⟨-, rfl⟩ := ofReference_eq_ok.1 accepted
  have found := require_eq_ok.1 known
  rw [ReferenceData.get?_itemIndex] at found
  simpa using List.find?_some found

end RateTable
end Haulage
