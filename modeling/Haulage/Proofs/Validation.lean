import Haulage.Error
import Haulage.Sit

/-! What a collection of messages has about each field, and when it is empty: it is exactly if
nothing was added to it. So a record that passes its validation has none of the faults that the
validation looks for. -/
namespace Haulage

theorem Date.not_lt {a b : Date} : ¬ a < b ↔ b ≤ a := Int.not_lt

theorem Date.not_le {a b : Date} : ¬ a ≤ b ↔ b < a := Int.not_le

theorem Date.day_inj {a b : Date} : a.day = b.day ↔ a = b := by
  cases a
  cases b
  simp

namespace FieldErrors
variable {e other : FieldErrors}

theorem check_eq_ok : e.check = .ok () ↔ e.isEmpty := by
  unfold check
  split
  · next empty => exact iff_of_true rfl empty
  · next found => exact iff_of_false nofun found

theorem insertEntry_ne_nil {κ α : Type} [Ord κ] (k : κ) (v : α) (es : List (κ × α)) :
    SortedMap.insertEntry k v es ≠ [] := by
  cases es with
  | nil => exact List.cons_ne_nil _ _
  | cons e rest =>
    rw [SortedMap.insertEntry]
    split <;> exact List.cons_ne_nil _ _

@[simp] theorem isEmpty_addAll (field : String) (texts : List String) :
    (e.addAll field texts).isEmpty = false :=
  List.isEmpty_eq_false_iff.2 (insertEntry_ne_nil _ _ _)

@[simp] theorem isEmpty_addIf (condition : Bool) (field text : String) :
    (e.addIf condition field text).isEmpty = (e.isEmpty && !condition) := by
  cases condition with
  | false => simp [addIf]
  | true => simp [addIf, add]

@[simp] theorem isEmpty_appendAs (rename : String → String) :
    (appendAs rename e other).isEmpty = (e.isEmpty && other.isEmpty) := by
  obtain ⟨⟨entries, ascending⟩⟩ := other
  simp only [appendAs, isEmpty]
  clear ascending
  induction entries generalizing e with
  | nil => simp
  | cons entry rest ih =>
    rw [List.foldl_cons, ih, ← isEmpty, isEmpty_addAll]
    simp

@[simp] theorem isEmpty_append : (e.append other).isEmpty = (e.isEmpty && other.isEmpty) :=
  isEmpty_appendAs id

@[simp] theorem isEmpty_appendUnder (path : String) :
    (e.appendUnder path other).isEmpty = (e.isEmpty && other.isEmpty) := isEmpty_appendAs _

/-- Of many collections put together none has a message if the whole has none. -/
theorem isEmpty_foldl_appendUnder {α : Type} {path : α → String} {errors : α → FieldErrors}
    {xs : List α} :
    (xs.foldl (fun e x => e.appendUnder (path x) (errors x)) e).isEmpty ↔
      e.isEmpty ∧ ∀ x ∈ xs, (errors x).isEmpty := by
  induction xs generalizing e with
  | nil => simp
  | cons x rest ih =>
    rw [List.foldl_cons, ih, List.forall_mem_cons]
    simp [and_assoc]

/-- The messages about a field, none if it is not there. -/
def texts (e : FieldErrors) (field : String) : List String := (e.get? field).getD []

/-- A field is there for the messages about it only. -/
def Spoken (e : FieldErrors) : Prop := ∀ field, e.get? field ≠ some []

theorem get?_addAll (field other : String) (messages : List String) :
    (e.addAll field messages).get? other =
      if other = field then some (e.texts field ++ messages) else e.get? other :=
  SortedMap.get?_insert e.messages field other _

theorem texts_empty (field : String) : empty.texts field = [] := rfl

theorem texts_addAll (field other : String) (messages : List String) :
    (e.addAll field messages).texts other =
      e.texts other ++ if other = field then messages else [] := by
  rw [texts, get?_addAll]
  split
  · next same =>
    rw [same]
    rfl
  · rw [List.append_nil]
    rfl

theorem texts_addIf (condition : Bool) (field text other : String) :
    (e.addIf condition field text).texts other =
      e.texts other ++ if condition ∧ other = field then [text] else [] := by
  cases condition with
  | false => simp [addIf]
  | true => simp only [addIf, if_true, add, texts_addAll, true_and]

theorem spoken_empty : empty.Spoken := fun _ => nofun

theorem Spoken.addAll (spoken : e.Spoken) (field : String) {messages : List String}
    (some_ : messages ≠ []) : (e.addAll field messages).Spoken := by
  intro other
  rw [get?_addAll]
  split
  · simp [some_]
  · exact spoken other

theorem Spoken.addIf (spoken : e.Spoken) (condition : Bool) (field text : String) :
    (e.addIf condition field text).Spoken := by
  unfold FieldErrors.addIf
  split
  · exact spoken.addAll field (List.cons_ne_nil text [])
  · exact spoken

theorem Spoken.get?_eq_some (spoken : e.Spoken) {field : String} {messages : List String}
    (there : e.get? field = some messages) : e.texts field = messages ∧ messages ≠ [] := by
  refine ⟨by rw [texts, there, Option.getD_some], ?_⟩
  rintro rfl
  exact spoken field there

theorem Spoken.isEmpty_iff (spoken : e.Spoken) : e.isEmpty ↔ ∀ field, e.texts field = [] := by
  have entries : e.isEmpty ↔ e.messages.entries = [] := List.isEmpty_iff
  rw [entries]
  constructor
  · intro none_ field
    simp [texts, get?, SortedMap.get?, none_]
  · intro silent
    have same : e.messages = SortedMap.empty := by
      refine SortedMap.ext_get? fun field => ?_
      cases there : e.messages.get? field with
      | none => rfl
      | some messages =>
        obtain ⟨same, some_⟩ := spoken.get?_eq_some there
        exact absurd (same.symm.trans (silent field)) some_
    rw [same]
    rfl

end FieldErrors

namespace Sit
variable {sit : Sit}

theorem isEmpty_addIfEarly {field what : String} {date earliest : Option Date} {e : FieldErrors} :
    (addIfEarly field what date earliest e).isEmpty ↔
      e.isEmpty ∧ ∀ d ∈ date, ∀ b ∈ earliest, b ≤ d := by
  unfold addIfEarly
  split
  · simp [Date.not_lt]
  · next none_ =>
    refine (and_iff_left fun d known b known' => ?_).symm
    exact absurd known' (none_ d b known)

/-- The dates that the status asks for are there, and the dates are in order. -/
structure Dated (sit : Sit) : Prop where
  entered : sit.status.isOccupied → sit.actualStartDate ≠ none
  left : sit.status = .released ∨ sit.status = .delivered → sit.outDate ≠ none
  startInOrder : ∀ actual ∈ sit.actualStartDate, ∀ authorized ∈ sit.authorizedStartDate,
    authorized ≤ actual
  outInOrder : ∀ out ∈ sit.outDate, ∀ actual ∈ sit.actualStartDate, actual ≤ out

theorem dated_of_validate (valid : sit.validate.isEmpty) : sit.Dated := by
  unfold validate at valid
  simp only [isEmpty_addIfEarly, FieldErrors.isEmpty_addIf, Bool.and_eq_true, Bool.not_eq_true',
    decide_eq_false_iff_not] at valid
  obtain ⟨⟨⟨⟨_, entered⟩, left⟩, startInOrder⟩, outInOrder⟩ := valid
  constructor
  case entered => exact fun occupied unknown => entered ⟨occupied, unknown⟩
  case left => exact fun gone unknown => left ⟨gone, unknown⟩
  case startInOrder => exact startInOrder
  case outInOrder => exact outInOrder

end Sit
end Haulage
