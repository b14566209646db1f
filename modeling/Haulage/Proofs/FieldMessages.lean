import Haulage.Proofs.Validation
import Mathlib.Data.List.Basic

/-! What is in a collection of messages after any calls that add to it or merge other collections
into it, nested to any depth: every message once, under its path, in the order of the calls. So
what it has about a field can be read off the flat list of the messages, and it is written as that
list, sorted by path with the order kept where paths are equal. -/
namespace Haulage

section Sorting
variable {κ α : Type} [Ord κ] {xs ys : List (κ × α)}

def keyLE (a b : κ × α) : Bool := (compare a.1 b.1).isLE

variable [Std.TransOrd κ]

theorem keyLE_of_eq {a b : κ × α} (same : a.1 = b.1) : keyLE a b := by
  simp [keyLE, same]

theorem keyLE_trans (a b c : κ × α) (first : keyLE a b) (second : keyLE b c) : keyLE a c :=
  Std.TransCmp.isLE_trans first second

theorem keyLE_total (a b : κ × α) : keyLE a b || keyLE b a := by
  have swapped : compare b.1 a.1 = (compare a.1 b.1).swap := Std.OrientedOrd.eq_swap
  rw [keyLE, keyLE, swapped]
  cases compare a.1 b.1 <;> rfl

variable [DecidableEq κ]

/-- A sort keeps the order of the elements of one key. -/
theorem filter_mergeSort (k : κ) :
    (xs.mergeSort keyLE).filter (·.1 = k) = xs.filter (·.1 = k) := by
  have level : (xs.filter (·.1 = k)).Pairwise fun a b => keyLE a b := by
    refine List.pairwise_filter.2 (List.pairwise_of_forall fun a b here here' => keyLE_of_eq ?_)
    rw [of_decide_eq_true here, of_decide_eq_true here']
  have kept := (List.sublist_mergeSort keyLE_trans keyLE_total level List.filter_sublist).filter
    (fun a => decide (a.1 = k))
  simp only [List.filter_filter, Bool.and_self] at kept
  refine (kept.eq_of_length ?_).symm
  exact ((List.mergeSort_perm xs keyLE).filter _).length_eq.symm

omit [Ord κ] [Std.TransOrd κ] in
theorem mem_iff_of_filter_key (same : ∀ k, xs.filter (·.1 = k) = ys.filter (·.1 = k))
    (a : κ × α) : a ∈ xs ↔ a ∈ ys := by
  simpa using congrArg (a ∈ ·) (same a.1)

/-- Lists that ascend by key are the same if they have the same elements of each key. -/
theorem eq_of_filter_key [Std.LawfulEqOrd κ] (ascending : xs.Pairwise fun a b => keyLE a b)
    (ascending' : ys.Pairwise fun a b => keyLE a b)
    (same : ∀ k, xs.filter (·.1 = k) = ys.filter (·.1 = k)) : xs = ys := by
  induction xs generalizing ys with
  | nil =>
    refine (List.eq_nil_iff_forall_not_mem.2 fun a => ?_).symm
    rw [← mem_iff_of_filter_key same]
    exact List.not_mem_nil
  | cons x rest ih =>
    obtain ⟨least, tail⟩ := List.pairwise_cons.1 ascending
    have mem := mem_iff_of_filter_key same
    cases ys with
    | nil => exact absurd ((mem x).1 List.mem_cons_self) List.not_mem_nil
    | cons y more =>
      obtain ⟨least', tail'⟩ := List.pairwise_cons.1 ascending'
      have above : keyLE x y := by
        rcases List.mem_cons.1 ((mem y).2 List.mem_cons_self) with rfl | later
        · exact keyLE_of_eq rfl
        · exact least y later
      have below : keyLE y x := by
        rcases List.mem_cons.1 ((mem x).1 List.mem_cons_self) with rfl | later
        · exact keyLE_of_eq rfl
        · exact least' x later
      have sameKey : x.1 = y.1 :=
        Std.LawfulEqCmp.eq_of_compare (Std.OrientedCmp.isLE_antisymm above below)
      -- The heads have one key, so each is the first element of that key in its list.
      have first := same y.1
      simp only [List.filter_cons, sameKey, decide_true, if_true, List.cons.injEq] at first
      obtain ⟨rfl, first⟩ := first
      refine congrArg (x :: ·) (ih tail tail' fun k => ?_)
      by_cases here : x.1 = k
      · exact here ▸ first
      · have others := same k
        rwa [List.filter_cons_of_neg (by simp [here]), List.filter_cons_of_neg (by simp [here])]
          at others

/-- So a list is the sort of another if it ascends and has the same elements of each key in the
same order. -/
theorem eq_mergeSort [Std.LawfulEqOrd κ] (ascending : xs.Pairwise fun a b => keyLE a b)
    (same : ∀ k, xs.filter (·.1 = k) = ys.filter (·.1 = k)) : xs = ys.mergeSort keyLE :=
  eq_of_filter_key ascending (List.pairwise_mergeSort keyLE_trans keyLE_total ys) fun k =>
    (same k).trans (filter_mergeSort k).symm

end Sorting

namespace FieldErrors
variable {e other : FieldErrors}

/-- The messages with this path, in their order. -/
def messagesAt (pairs : List (String × String)) (field : String) : List String :=
  (pairs.filter (·.1 = field)).map (·.2)

theorem pairwise_toPairs : e.toPairs.Pairwise fun a b => keyLE a b := by
  refine List.pairwise_flatMap.2 ⟨fun entry _ => ?_, e.messages.ascending.imp fun {a b} less => ?_⟩
  · exact List.pairwise_map.2 (List.pairwise_of_forall fun _ _ => keyLE_of_eq rfl)
  · simp only [List.forall_mem_map]
    intro _ _ _ _
    rw [keyLE, less]
    rfl

theorem messagesAt_append (pairs pairs' : List (String × String)) (field : String) :
    messagesAt (pairs ++ pairs') field = messagesAt pairs field ++ messagesAt pairs' field := by
  rw [messagesAt, List.filter_append, List.map_append]
  rfl

theorem messagesAt_eq_nil_iff {pairs : List (String × String)} :
    (∀ field, messagesAt pairs field = []) ↔ pairs = [] := by
  constructor
  · intro silent
    refine List.eq_nil_iff_forall_not_mem.2 fun pair member => ?_
    have told : pair.2 ∈ messagesAt pairs pair.1 :=
      List.mem_map_of_mem (List.mem_filter.2 ⟨member, decide_eq_true rfl⟩)
    rw [silent] at told
    contradiction
  · rintro rfl field
    rfl

theorem messagesAt_map (texts : List String) (other field : String) :
    messagesAt (texts.map (other, ·)) field = if field = other then texts else [] := by
  rw [messagesAt, List.filter_map, List.map_map]
  split
  · next same => simp [same, Function.comp_def]
  · next apart => simp [Ne.symm apart, Function.comp_def]

theorem filter_eq_map_messagesAt (pairs : List (String × String)) (field : String) :
    pairs.filter (·.1 = field) = (messagesAt pairs field).map (field, ·) := by
  rw [messagesAt, List.map_map]
  refine (List.map_id _).symm.trans (List.map_congr_left fun pair within => ?_)
  rw [← of_decide_eq_true (List.mem_filter.1 within).2]
  rfl

/-- The messages with other paths. -/
def renamed (rename : String → String) (pairs : List (String × String)) :
    List (String × String) :=
  pairs.map fun pair => (rename pair.1, pair.2)

theorem renamed_append (rename : String → String) (pairs pairs' : List (String × String)) :
    renamed rename (pairs ++ pairs') = renamed rename pairs ++ renamed rename pairs' :=
  List.map_append

theorem messagesAt_renamed {rename : String → String} (injective : Function.Injective rename)
    {pairs pairs' : List (String × String)}
    (same : ∀ field, messagesAt pairs field = messagesAt pairs' field) (field : String) :
    messagesAt (renamed rename pairs) field = messagesAt (renamed rename pairs') field := by
  by_cases named : ∃ old, rename old = field
  · obtain ⟨old, rfl⟩ := named
    have before (pairs : List (String × String)) :
        messagesAt (renamed rename pairs) (rename old) = messagesAt pairs old := by
      simp [messagesAt, renamed, List.filter_map, Function.comp_def, injective.eq_iff]
    rw [before, before, same]
  · have silent (pairs : List (String × String)) :
        messagesAt (renamed rename pairs) field = [] := by
      simp only [messagesAt, renamed, List.map_eq_nil_iff, List.filter_eq_nil_iff,
        decide_eq_true_eq, List.forall_mem_map]
      exact fun pair _ same => named ⟨pair.1, same⟩
    rw [silent, silent]

theorem messagesAt_toPairs (field : String) : messagesAt e.toPairs field = e.texts field := by
  obtain ⟨⟨entries, ascending⟩⟩ := e
  simp only [toPairs, texts, get?, SortedMap.get?]
  induction entries with
  | nil => rfl
  | cons entry rest ih =>
    obtain ⟨least, ascending⟩ := List.pairwise_cons.1 ascending
    rw [List.flatMap_cons, messagesAt_append, messagesAt_map, ih ascending]
    -- The keys ascend strictly, so no later entry is about the field of this one.
    by_cases here : entry.1 = field
    · have others : rest.find? (·.1 = field) = none := by
        refine List.find?_eq_none.2 fun e later same => ?_
        have less := least e later
        rw [here, of_decide_eq_true same] at less
        simp at less
      simp [here, others]
    · simp [here, Ne.symm here]

theorem texts_appendAs (rename : String → String) (field : String) :
    (appendAs rename e other).texts field =
      e.texts field ++ messagesAt (renamed rename other.toPairs) field := by
  obtain ⟨⟨entries, ascending⟩⟩ := other
  simp only [appendAs, toPairs]
  clear ascending
  induction entries generalizing e with
  | nil => exact (List.append_nil _).symm
  | cons entry rest ih =>
    have here : renamed rename (entry.2.map (entry.1, ·)) = entry.2.map (rename entry.1, ·) := by
      rw [renamed, List.map_map]
      rfl
    rw [List.foldl_cons, ih, texts_addAll, List.flatMap_cons, renamed_append, messagesAt_append,
      here, messagesAt_map, List.append_assoc]

/-- A merge leaves no field without messages. -/
theorem Spoken.appendAs (spoken : e.Spoken) (spoken' : other.Spoken)
    (rename : String → String) : (appendAs rename e other).Spoken := by
  have some_ : ∀ entry ∈ other.messages.entries, entry.2 ≠ [] := by
    intro entry member none_
    refine spoken' entry.1 ?_
    rw [get?, SortedMap.get?_eq_some_iff, ← none_]
    exact member
  unfold FieldErrors.appendAs
  generalize other.messages.entries = entries at some_
  induction entries generalizing e with
  | nil => exact spoken
  | cons entry rest ih =>
    obtain ⟨here, there⟩ := List.forall_mem_cons.1 some_
    exact ih (spoken.addAll (rename entry.1) here) there

theorem Spoken.get?_eq (spoken : e.Spoken) (field : String) :
    e.get? field = if e.texts field = [] then none else some (e.texts field) := by
  cases there : e.get? field with
  | none => rw [texts, there, Option.getD_none, if_pos rfl]
  | some messages =>
    obtain ⟨same, some_⟩ := spoken.get?_eq_some there
    rw [same, if_neg some_]

/-- The calls that a collection comes from, one after the other. What a call merges comes from
calls of its own. -/
inductive Calls
  | start
  | add (before : Calls) (field text : String)
  | append (before merged : Calls)
  | appendUnder (before : Calls) (path : String) (merged : Calls)

namespace Calls

/-- The collection that the calls make. -/
def errors : Calls → FieldErrors
  | start => .empty
  | add before field text => before.errors.add field text
  | append before merged => before.errors.append merged.errors
  | appendUnder before path merged => before.errors.appendUnder path merged.errors

/-- Each message with its path, which is made of the places around it and its field. -/
def pairs (outer : List String) : Calls → List (String × String)
  | start => []
  | add before field text => before.pairs outer ++ [(".".intercalate (outer ++ [field]), text)]
  | append before merged => before.pairs outer ++ merged.pairs outer
  | appendUnder before path merged => before.pairs outer ++ merged.pairs (outer ++ [path])

/-- How many messages are added, in all calls. -/
def adds : Calls → Nat
  | start => 0
  | add before _ _ => before.adds + 1
  | append before merged | appendUnder before _ merged => before.adds + merged.adds

variable {calls : Calls}

theorem length_pairs (outer : List String) : (calls.pairs outer).length = calls.adds := by
  induction calls generalizing outer with
  | start => rfl
  | add before field text ih => simp [pairs, adds, ih]
  | append before merged ih ih' => simp [pairs, adds, ih, ih']
  | appendUnder before path merged ih ih' => simp [pairs, adds, ih, ih']

theorem pairs_cons (path : String) (outer : List String) :
    calls.pairs (path :: outer) = renamed (path ++ "." ++ ·) (calls.pairs outer) := by
  induction calls generalizing outer with
  | start => rfl
  | add before field text ih =>
    have joined : ".".intercalate (path :: (outer ++ [field])) =
        path ++ "." ++ ".".intercalate (outer ++ [field]) :=
      String.intercalate_cons_of_ne_nil (by simp)
    simp [pairs, ih, renamed, joined]
  | append before merged ih ih' => simp [pairs, ih, ih', renamed]
  | appendUnder before inner merged ih ih' => simp [pairs, ih, ih', renamed]

theorem spoken_errors : calls.errors.Spoken := by
  induction calls with
  | start => exact spoken_empty
  | add before field text ih => exact ih.addAll field (List.cons_ne_nil _ _)
  | append before merged ih ih' => exact ih.appendAs ih' _
  | appendUnder before path merged ih ih' => exact ih.appendAs ih' _

theorem texts_errors (field : String) :
    calls.errors.texts field = messagesAt (calls.pairs []) field := by
  induction calls generalizing field with
  | start => rfl
  | add before named text ih =>
    have here : [(".".intercalate ([] ++ [named]), text)] = [text].map (named, ·) := by simp
    rw [errors, FieldErrors.add, texts_addAll, ih, pairs, messagesAt_append, here, messagesAt_map]
  | append before merged ih ih' =>
    have asItIs : renamed id merged.errors.toPairs = merged.errors.toPairs := List.map_id _
    rw [errors, FieldErrors.append, texts_appendAs, asItIs, messagesAt_toPairs, ih, ih', pairs,
      messagesAt_append]
  | appendUnder before path merged ih ih' =>
    have injective : Function.Injective (path ++ "." ++ ·) := fun _ _ same =>
      (String.append_right_inj _).1 same
    rw [errors, FieldErrors.appendUnder, texts_appendAs, ih, pairs, messagesAt_append,
      List.nil_append, pairs_cons]
    refine congrArg (_ ++ ·) (messagesAt_renamed injective (fun field => ?_) field)
    rw [messagesAt_toPairs, ih']

theorem toPairs_errors : calls.errors.toPairs = (calls.pairs []).mergeSort keyLE := by
  refine eq_mergeSort pairwise_toPairs fun field => ?_
  rw [filter_eq_map_messagesAt, filter_eq_map_messagesAt, messagesAt_toPairs, texts_errors]

theorem isEmpty_errors : calls.errors.isEmpty ↔ calls.adds = 0 := by
  rw [spoken_errors.isEmpty_iff, ← length_pairs [], List.length_eq_zero_iff,
    ← messagesAt_eq_nil_iff]
  simp only [texts_errors]

/-- What the calls make has about each field all that they add under that path, in their order,
and no field of which they say nothing. It counts their messages, fails if there is any, and is
written as their messages sorted by path. -/
theorem collects_messages (calls : Calls) :
    (∀ field, calls.errors.get? field =
      if messagesAt (calls.pairs []) field = [] then none
      else some (messagesAt (calls.pairs []) field)) ∧
    calls.errors.size = calls.adds ∧
    calls.errors.check =
      (if calls.adds = 0 then .ok () else .error (.validation calls.errors)) ∧
    calls.errors.toText = "; ".intercalate
      (((calls.pairs []).mergeSort keyLE).map fun (path, text) => path ++ ": " ++ text) := by
  refine ⟨fun field => ?_, ?_, ?_, ?_⟩
  · rw [spoken_errors.get?_eq, texts_errors]
  · rw [size, toPairs_errors, List.length_mergeSort, length_pairs]
  · simp only [check, isEmpty_errors]
  · rw [toText, toPairs_errors]

/-- A field named by its whole path and one that is merged under a prefix are the same field. -/
example :
    ((Calls.start.add "address.city" "is unknown").appendUnder "address"
      (Calls.start.add "city" "can not be blank")).errors.get? "address.city" =
        some ["is unknown", "can not be blank"] := by
  decide +kernel

end Calls
end FieldErrors
end Haulage
