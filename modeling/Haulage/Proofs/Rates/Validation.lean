import Haulage.Proofs.Rates.Index
import Haulage.Proofs.Sample
import Haulage.Proofs.Text.Numeral
import Mathlib.Data.List.Induction
import Mathlib.Data.List.Nodup

/-! Which reference data makes a rate table, and what is said about data that does not. Each tariff
item that repeats a code and each rule that a rate row breaks has one message, under the row's
own index, and there are no others. -/
namespace Haulage

/-- What is asked of each rate row, in the order in which it is looked at. -/
inductive RateRule where
  | code | dates | weights | miles | rate

namespace RateRule

def all : List RateRule := [code, dates, weights, miles, rate]

def Broken (data : ReferenceData) (row : TariffRate) : RateRule → Prop
  | code => ∀ item ∈ data.tariffItems, item.code ≠ row.code
  | dates => row.dateUpper ≤ row.dateLower
  | weights => row.weightUpper ≤ row.weightLower
  | miles => ∃ lower ∈ row.milesLower, ∃ upper ∈ row.milesUpper, upper ≤ lower
  | rate => row.rate.val < 0

instance (data : ReferenceData) (row : TariffRate) : DecidablePred (Broken data row)
  | code => inferInstanceAs (Decidable (∀ item ∈ data.tariffItems, item.code ≠ row.code))
  | dates => inferInstanceAs (Decidable (row.dateUpper ≤ row.dateLower))
  | weights => inferInstanceAs (Decidable (row.weightUpper ≤ row.weightLower))
  | miles => inferInstanceAs
      (Decidable (∃ lower ∈ row.milesLower, ∃ upper ∈ row.milesUpper, upper ≤ lower))
  | rate => inferInstanceAs (Decidable (row.rate.val < 0))

def message (row : TariffRate) : RateRule → String
  | code => "unknown tariff code " ++ row.code
  | dates => "effective date range is empty"
  | weights => "weight range is empty"
  | miles => "distance range is empty"
  | rate => "rate can not be negative"

end RateRule

/-- The row keeps all rules. -/
structure TariffRate.FitsIn (row : TariffRate) (data : ReferenceData) : Prop where
  code : ∃ item ∈ data.tariffItems, item.code = row.code
  dates : row.dateLower < row.dateUpper
  weights : row.weightLower < row.weightUpper
  miles : ∀ lower ∈ row.milesLower, ∀ upper ∈ row.milesUpper, lower < upper
  rate : 0 ≤ row.rate.val

namespace ReferenceData
variable {data : ReferenceData} {e : FieldErrors} {row : TariffRate} {field : String}

/-- The field that messages about a rate row stand under. -/
def rowField (index : Nat) : String := "rates[" ++ toString index ++ "]"

/-- The tariff items whose code an earlier one has. -/
def repeats (items : List TariffItem) : List TariffItem :=
  (items.zipIdx.filter fun x => x.1.code ∈ (items.take x.2).map (·.code)).map (·.1)

/-- One message for each rule that the row breaks. -/
def complaints (data : ReferenceData) (row : TariffRate) : List String :=
  (RateRule.all.filter fun rule => rule.Broken data row).map (·.message row)

/-- No code is repeated, and every rate row keeps the rules. -/
structure Sound (data : ReferenceData) : Prop where
  codes : (data.tariffItems.map (·.code)).Nodup
  rows : ∀ row ∈ data.rates, row.FitsIn data

/-- The messages are one for each item that repeats a code and one for each rule that a row breaks,
and there are no others. -/
structure Reports (data : ReferenceData) (errors : FieldErrors) : Prop where
  items : errors.texts "tariff_items" =
    (repeats data.tariffItems).map fun item => "duplicate code " ++ item.code
  rows : ∀ index row, data.rates[index]? = some row →
    errors.texts (rowField index) = data.complaints row
  others : ∀ field messages, errors.get? field = some messages → messages ≠ [] ∧
    (field = "tariff_items" ∨ ∃ index < data.rates.length, field = rowField index)

theorem rowField_injective : Function.Injective rowField := by
  intro i j same
  have digits : (toString i).toList = (toString j).toList := by
    simpa [rowField, String.toList_inj.symm] using same
  exact toString_nat_injective (String.toList_inj.1 digits)

theorem rowField_ne (index : Nat) : rowField index ≠ "tariff_items" := by
  intro same
  simp [rowField, String.toList_inj.symm] at same

/-- All rules are looked at, whichever of them are broken. -/
theorem rateErrors_eq (index : Nat) : rateErrors (itemIndex data.tariffItems) e row index =
    RateRule.all.foldl
      (fun e rule => e.addIf (rule.Broken data row) (rowField index) (rule.message row)) e := by
  have code : decide (RateRule.code.Broken data row) =
      !(itemIndex data.tariffItems).contains row.code := by
    rw [Bool.eq_iff_iff, decide_eq_true_eq, Bool.not_eq_true', ← Bool.not_eq_true,
      contains_itemIndex]
    simp [RateRule.Broken]
  have miles : decide (RateRule.miles.Broken data row) =
      row.milesLower.any fun lower => row.milesUpper.any fun upper => upper ≤ lower := by
    rw [Bool.eq_iff_iff, decide_eq_true_eq]
    simp [RateRule.Broken, Option.any_eq_true]
  simp only [RateRule.all, List.foldl_cons, List.foldl_nil, code, miles]
  unfold rateErrors
  cases row.milesLower <;> cases row.milesUpper <;> rfl

end ReferenceData

namespace FieldErrors
variable {e : FieldErrors} {field other : String} {α : Type} {broken : α → Bool}
  {message : α → String} {xs : List α}

theorem texts_foldl_addIf :
    (xs.foldl (fun e x => e.addIf (broken x) field (message x)) e).texts other =
      e.texts other ++ if other = field then (xs.filter broken).map message else [] := by
  induction xs generalizing e with
  | nil => simp
  | cons x rest ih =>
    rw [List.foldl_cons, ih, texts_addIf, List.append_assoc, List.filter_cons]
    cases broken x <;> by_cases here : other = field <;> simp [here]

theorem Spoken.foldl_addIf (spoken : e.Spoken) :
    (xs.foldl (fun e x => e.addIf (broken x) field (message x)) e).Spoken := by
  induction xs generalizing e with
  | nil => exact spoken
  | cons x rest ih => exact ih (spoken.addIf _ _ _)

end FieldErrors

namespace ReferenceData
variable {data : ReferenceData} {e : FieldErrors} {row : TariffRate} {field : String}

theorem texts_rateErrors (index : Nat) :
    (rateErrors (itemIndex data.tariffItems) e row index).texts field =
      e.texts field ++ if field = rowField index then data.complaints row else [] := by
  rw [rateErrors_eq, FieldErrors.texts_foldl_addIf]
  rfl

/-- The last item is looked for among all before it. -/
theorem duplicateErrors_concat {items : List TariffItem} {item : TariffItem} {seen : List String} :
    duplicateErrors seen (items ++ [item]) e = (duplicateErrors seen items e).addIf
      (item.code ∈ seen ∨ item.code ∈ items.map (·.code)) "tariff_items"
      ("duplicate code " ++ item.code) := by
  induction items generalizing seen e with
  | nil => simp [duplicateErrors, toString]
  | cons first rest ih =>
    rw [List.cons_append, duplicateErrors, ih, ← duplicateErrors]
    simp only [List.mem_cons, List.map_cons, or_assoc, or_left_comm]

theorem repeats_concat (items : List TariffItem) (item : TariffItem) :
    repeats (items ++ [item]) =
      repeats items ++ if item.code ∈ items.map (·.code) then [item] else [] := by
  have before :
      items.zipIdx.filter (fun x => x.1.code ∈ ((items ++ [item]).take x.2).map (·.code)) =
        items.zipIdx.filter fun x => x.1.code ∈ (items.take x.2).map (·.code) := by
    refine List.filter_congr ?_
    intro x mem
    rw [List.take_append_of_le_length (Nat.le_of_lt (List.snd_lt_of_mem_zipIdx mem))]
  simp only [repeats, List.zipIdx_append, List.filter_append, before, List.map_append]
  by_cases repeated : item.code ∈ items.map (·.code) <;> simp [repeated]

theorem repeats_eq_nil {items : List TariffItem} :
    repeats items = [] ↔ (items.map (·.code)).Nodup := by
  induction items using List.reverseRecOn with
  | nil => simp [repeats]
  | append_singleton items item ih =>
    rw [repeats_concat, List.append_eq_nil_iff, ih, List.map_append, List.nodup_append]
    simp

theorem texts_duplicateErrors {items : List TariffItem} :
    (duplicateErrors [] items .empty).texts field =
      if field = "tariff_items" then (repeats items).map fun item => "duplicate code " ++ item.code
      else [] := by
  induction items using List.reverseRecOn with
  | nil => simp [duplicateErrors, repeats, FieldErrors.texts_empty]
  | append_singleton items item ih =>
    rw [duplicateErrors_concat, FieldErrors.texts_addIf, ih, repeats_concat]
    by_cases here : field = "tariff_items" <;>
      by_cases repeated : item.code ∈ items.map (·.code) <;> simp [here, repeated]

theorem spoken_duplicateErrors {items : List TariffItem} :
    (duplicateErrors [] items .empty).Spoken := by
  induction items using List.reverseRecOn with
  | nil => exact FieldErrors.spoken_empty
  | append_singleton items item ih =>
    rw [duplicateErrors_concat]
    exact ih.addIf _ _ _

theorem texts_foldl_rateErrors {rows : List (TariffRate × Nat)} :
    (rows.foldl (fun e x => rateErrors (itemIndex data.tariffItems) e x.1 x.2) e).texts field =
      e.texts field ++
        rows.flatMap fun x => if field = rowField x.2 then data.complaints x.1 else [] := by
  induction rows generalizing e with
  | nil => simp
  | cons x rest ih =>
    rw [List.foldl_cons, ih, texts_rateErrors, List.flatMap_cons, List.append_assoc]

theorem spoken_foldl_rateErrors {rows : List (TariffRate × Nat)} (spoken : e.Spoken) :
    (rows.foldl (fun e x => rateErrors (itemIndex data.tariffItems) e x.1 x.2) e).Spoken := by
  induction rows generalizing e with
  | nil => exact spoken
  | cons x rest ih =>
    have next : (rateErrors (itemIndex data.tariffItems) e x.1 x.2).Spoken := by
      rw [rateErrors_eq]
      exact spoken.foldl_addIf
    exact ih next

theorem texts_validate (data : ReferenceData) (field : String) : data.validate.texts field =
    (if field = "tariff_items" then
      (repeats data.tariffItems).map fun item => "duplicate code " ++ item.code else []) ++
    data.rates.zipIdx.flatMap fun x =>
      if field = rowField x.2 then data.complaints x.1 else [] := by
  rw [validate, texts_foldl_rateErrors, texts_duplicateErrors]

theorem spoken_validate (data : ReferenceData) : data.validate.Spoken :=
  spoken_foldl_rateErrors spoken_duplicateErrors

theorem fitsIn_iff : row.FitsIn data ↔ ∀ rule, ¬ RateRule.Broken data row rule := by
  constructor
  · intro fits rule
    cases rule with
    | code => simpa [RateRule.Broken] using fits.code
    | dates => exact Date.not_le.2 fits.dates
    | weights => simpa [RateRule.Broken] using fits.weights
    | miles => simpa [RateRule.Broken] using fits.miles
    | rate => simpa [RateRule.Broken] using fits.rate
  · intro kept
    constructor
    case code => simpa [RateRule.Broken] using kept .code
    case dates => exact Date.not_le.1 (kept .dates)
    case weights => simpa [RateRule.Broken] using kept .weights
    case miles => simpa [RateRule.Broken] using kept .miles
    case rate => simpa [RateRule.Broken] using kept .rate

theorem complaints_eq_nil : data.complaints row = [] ↔ row.FitsIn data := by
  have all (rule : RateRule) : rule ∈ RateRule.all := by
    cases rule <;> simp [RateRule.all]
  simp [complaints, fitsIn_iff, all]

/-- Of entries that are looked at with their places, one counts. -/
theorem flatMap_zipIdx_of_getElem? {α β : Type} {xs : List α} {index : Nat} {x : α}
    (found : xs[index]? = some x) (f : α → List β) (n : Nat) :
    (xs.zipIdx n).flatMap (fun y => if n + index = y.2 then f y.1 else []) = f x := by
  induction xs generalizing index n with
  | nil => simp at found
  | cons first rest ih =>
    rw [List.zipIdx_cons, List.flatMap_cons]
    cases index with
    | zero =>
      obtain rfl : first = x := by simpa using found
      have others : (rest.zipIdx (n + 1)).flatMap
          (fun y => if n + 0 = y.2 then f y.1 else []) = [] := by
        rw [List.flatMap_eq_nil_iff]
        intro y mem
        have := List.le_snd_of_mem_zipIdx mem
        rw [if_neg (by omega)]
      rw [others, if_pos (Nat.add_zero n), List.append_nil]
    | succ index =>
      have later := ih (by simpa using found) (n + 1)
      rw [if_neg (by simp), List.nil_append, ← later]
      simp only [Nat.add_assoc, Nat.add_comm 1]

theorem isEmpty_validate : data.validate.isEmpty ↔ data.Sound := by
  rw [(spoken_validate data).isEmpty_iff]
  simp only [texts_validate, List.append_eq_nil_iff, List.flatMap_eq_nil_iff]
  constructor
  · intro silent
    constructor
    case codes =>
      have items := (silent "tariff_items").1
      rw [if_pos rfl, List.map_eq_nil_iff] at items
      exact repeats_eq_nil.1 items
    case rows =>
      intro row mem
      obtain ⟨index, found⟩ := List.mem_iff_getElem?.1 mem
      have entry : (row, index) ∈ data.rates.zipIdx := List.mem_zipIdx_iff_getElem?.2 found
      have here := (silent (rowField index)).2 _ entry
      rw [if_pos rfl] at here
      exact complaints_eq_nil.1 here
  · intro sound field
    constructor
    · rw [repeats_eq_nil.2 sound.codes]
      simp
    · intro x mem
      rw [complaints_eq_nil.2 (sound.rows x.1 (List.fst_mem_of_mem_zipIdx mem))]
      simp

theorem reports_validate (data : ReferenceData) : data.Reports data.validate := by
  constructor
  case items =>
    have rows : data.rates.zipIdx.flatMap (fun x =>
        if "tariff_items" = rowField x.2 then data.complaints x.1 else []) = [] := by
      simp [Ne.symm (rowField_ne _)]
    rw [texts_validate, if_pos rfl, rows, List.append_nil]
  case rows =>
    intro index row found
    rw [texts_validate, if_neg (rowField_ne index), List.nil_append]
    simp only [rowField_injective.eq_iff]
    simpa using flatMap_zipIdx_of_getElem? found data.complaints 0
  case others =>
    intro field messages there
    obtain ⟨same, some_⟩ := (spoken_validate data).get?_eq_some there
    refine ⟨some_, ?_⟩
    rw [← same, texts_validate] at some_
    by_contra! other
    refine some_ ?_
    rw [if_neg other.1, List.nil_append, List.flatMap_eq_nil_iff]
    intro x mem
    rw [if_neg]
    exact other.2 x.2 (List.snd_lt_of_mem_zipIdx mem)

end ReferenceData

namespace RateTable
variable {data : ReferenceData} {t : RateTable} {code : String}

theorem tariffItem_eq_ok (accepted : ofReference data = .ok t) {item : TariffItem} :
    t.tariffItem code = .ok item ↔ item ∈ data.tariffItems ∧ item.code = code := by
  obtain ⟨empty, rfl⟩ := ofReference_eq_ok.1 accepted
  have distinct := (ReferenceData.isEmpty_validate.1 empty).codes
  rw [tariffItem, require_eq_ok, ReferenceData.get?_itemIndex]
  constructor
  · intro found
    exact ⟨List.mem_of_find?_eq_some found, by simpa using List.find?_some found⟩
  · rintro ⟨mem, rfl⟩
    cases found : data.tariffItems.find? (·.code = item.code) with
    | none => simpa using List.find?_eq_none.1 found item mem
    | some other =>
      have same : other.code = item.code := by simpa using List.find?_some found
      exact congrArg some
        (List.inj_on_of_nodup_map distinct (List.mem_of_find?_eq_some found) mem same)

theorem tariffItem_eq_error (accepted : ofReference data = .ok t) {e : Error} :
    t.tariffItem code = .error e ↔
      e = .notFound .tariffItem code ∧ ∀ item ∈ data.tariffItems, item.code ≠ code := by
  obtain ⟨-, rfl⟩ := ofReference_eq_ok.1 accepted
  rw [tariffItem, ReferenceData.get?_itemIndex]
  cases found : data.tariffItems.find? (·.code = code) with
  | none =>
    have unknown : ∀ item ∈ data.tariffItems, item.code ≠ code := by
      simpa using List.find?_eq_none.1 found
    simp only [require, Except.error.injEq, @eq_comm _ e]
    exact (and_iff_left unknown).symm
  | some item =>
    have mem := List.mem_of_find?_eq_some found
    have same : item.code = code := by simpa using List.find?_some found
    simp only [require, reduceCtorEq, false_iff]
    rintro ⟨-, unknown⟩
    exact unknown item mem same

/-- Reference data makes a rate table exactly if it is sound. Data that is not is refused with one
message for each fault, and a table has each tariff item under its code and no others. -/
theorem ofReference_validates (data : ReferenceData) :
    ((∃ t, ofReference data = .ok t) ↔ data.Sound) ∧
    (∀ e, ofReference data = .error e → ∃ errors, e = .validation errors ∧ data.Reports errors) ∧
    ∀ t, ofReference data = .ok t → ∀ code,
      (∀ item, t.tariffItem code = .ok item ↔ item ∈ data.tariffItems ∧ item.code = code) ∧
      (∀ e, t.tariffItem code = .error e ↔
        e = .notFound .tariffItem code ∧ ∀ item ∈ data.tariffItems, item.code ≠ code) := by
  refine ⟨?_, ?_, ?_⟩
  · rw [← ReferenceData.isEmpty_validate]
    simp [ofReference_eq_ok]
  · intro e refused
    exact ⟨data.validate, (ofReference_eq_error.1 refused).2, ReferenceData.reports_validate data⟩
  · intro t accepted code
    exact ⟨fun item => tariffItem_eq_ok accepted, fun e => tariffItem_eq_error accepted⟩

/-- A code that stands twice and a row with four faults have five messages. -/
theorem ofReference_validates_sample :
    let row := { Sample.tariffRate "LHS" with
      dateLower := Sample.day 20000, weightUpper := 0, rate := ⟨-1⟩ }
    let item := Sample.tariffItem "135A" false .weight
    let data : ReferenceData := { tariffItems := [item, item], rates := [row] }
    Sample.reference.Sound ∧ Sample.rates.tariffItem "35A" =
        .ok (Sample.tariffItem "35A" true .actualCost) ∧
      ∃ errors, ofReference data = .error (.validation errors) ∧ data.Reports errors ∧
        errors.texts "tariff_items" = ["duplicate code 135A"] ∧
        errors.texts (ReferenceData.rowField 0) =
          ["unknown tariff code LHS", "effective date range is empty", "weight range is empty",
            "rate can not be negative"] := by
  intro row item data
  have accepted : ofReference Sample.reference = .ok Sample.rates := rfl
  obtain ⟨sound, -, tables⟩ := ofReference_validates Sample.reference
  have known := ((tables _ accepted "35A").1 (Sample.tariffItem "35A" true .actualCost)).2
    (by decide)
  have refused : ofReference data = .error (.validation data.validate) :=
    ofReference_eq_error.2 ⟨by decide +kernel, rfl⟩
  obtain ⟨errors, same, reports⟩ := (ofReference_validates data).2.1 _ refused
  obtain rfl : errors = data.validate := by
    injection same with same
    exact same.symm
  exact ⟨sound.1 ⟨_, accepted⟩, known, _, refused, reports, reports.items,
    reports.rows 0 row rfl⟩

end RateTable
end Haulage
