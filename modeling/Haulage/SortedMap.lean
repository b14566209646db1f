/-! Finite maps kept as entry lists in strictly ascending key order. The order is
part of the type, so two ways of building the same map give equal values. Main
statements: `get?_insert` and `get?_erase` say what each change does to look-ups,
and `ext_get?` that look-ups determine the map. -/
namespace Haulage

/-- A finite map whose entries stand in strictly ascending key order. -/
@[ext] structure SortedMap (κ : Type) (α : Type) [Ord κ] where
  entries : List (κ × α) := []
  ascending : entries.Pairwise (fun a b => compare a.1 b.1 = .lt) := by exact .nil

namespace SortedMap
variable {κ α : Type} [Ord κ]

/-- Single pass: the new entry takes the place of one with its key, or the place
where the order wants it. -/
def insertEntry (k : κ) (v : α) : List (κ × α) → List (κ × α)
  | [] => [(k, v)]
  | e :: rest =>
    match compare k e.1 with
    | .lt => (k, v) :: e :: rest
    | .eq => (k, v) :: rest
    | .gt => e :: insertEntry k v rest

theorem mem_insertEntry {k : κ} {v : α} {e : κ × α} {es : List (κ × α)}
    (h : e ∈ insertEntry k v es) : e = (k, v) ∨ e ∈ es := by
  induction es with
  | nil => simpa [insertEntry] using h
  | cons d rest ih =>
    rw [insertEntry] at h
    split at h <;> grind

theorem ascending_insertEntry [Std.TransOrd κ] [Std.LawfulEqOrd κ] {k : κ} {v : α}
    {es : List (κ × α)} (h : es.Pairwise (fun a b => compare a.1 b.1 = .lt)) :
    (insertEntry k v es).Pairwise (fun a b => compare a.1 b.1 = .lt) := by
  induction es with
  | nil => simp [insertEntry]
  | cons d rest ih =>
    obtain ⟨hd, hrest⟩ := List.pairwise_cons.1 h
    rw [insertEntry]
    split
    · next hlt =>
      refine List.pairwise_cons.2 ⟨fun e he => ?_, h⟩
      rcases List.mem_cons.1 he with rfl | he
      · exact hlt
      · exact Std.TransCmp.lt_trans hlt (hd e he)
    · next heq =>
      have hk : k = d.1 := Std.LawfulEqCmp.eq_of_compare heq
      exact List.pairwise_cons.2 ⟨fun e he => hk ▸ hd e he, hrest⟩
    · next hgt =>
      refine List.pairwise_cons.2 ⟨fun e he => ?_, ih hrest⟩
      rcases mem_insertEntry he with rfl | he
      · exact Std.OrientedCmp.lt_of_gt hgt
      · exact hd e he

def empty : SortedMap κ α := {}

instance : Inhabited (SortedMap κ α) := ⟨empty⟩

instance [DecidableEq κ] [DecidableEq α] : DecidableEq (SortedMap κ α) := fun a b =>
  decidable_of_iff (a.entries = b.entries) SortedMap.ext_iff.symm

def values (m : SortedMap κ α) : List α := m.entries.map (·.2)

def keys (m : SortedMap κ α) : List κ := m.entries.map (·.1)

def get? [DecidableEq κ] (m : SortedMap κ α) (k : κ) : Option α :=
  (m.entries.find? (·.1 = k)).map (·.2)

def contains [DecidableEq κ] (m : SortedMap κ α) (k : κ) : Bool := (m.get? k).isSome

def erase [DecidableEq κ] (m : SortedMap κ α) (k : κ) : SortedMap κ α :=
  ⟨m.entries.filter (·.1 ≠ k), m.ascending.filter _⟩

section Insertion
variable [Std.TransOrd κ] [Std.LawfulEqOrd κ]

def insert (m : SortedMap κ α) (k : κ) (v : α) : SortedMap κ α :=
  ⟨insertEntry k v m.entries, ascending_insertEntry m.ascending⟩

/-- Later entries win over earlier ones with the same key. -/
def ofList (es : List (κ × α)) : SortedMap κ α :=
  es.foldl (fun m e => m.insert e.1 e.2) empty

/-- Stores what `f` makes of the value at `k`, `none` if there is none. -/
def upsert [DecidableEq κ] (m : SortedMap κ α) (k : κ) (f : Option α → α) : SortedMap κ α :=
  m.insert k (f (m.get? k))

end Insertion

section Laws
variable [DecidableEq κ]

@[simp] theorem get?_empty (k : κ) : (empty : SortedMap κ α).get? k = none := rfl

theorem find?_insertEntry [Std.LawfulEqOrd κ] (k k' : κ) (v : α) (es : List (κ × α)) :
    (insertEntry k v es).find? (·.1 = k') =
      if k' = k then some (k, v) else es.find? (·.1 = k') := by
  induction es with
  | nil => simp only [insertEntry, List.find?_cons, List.find?_nil]; grind
  | cons d rest ih =>
    rw [insertEntry]
    split
    · grind
    · next heq =>
      have : k = d.1 := Std.LawfulEqCmp.eq_of_compare heq
      grind
    · next hgt =>
      have hne : d.1 ≠ k := by rintro rfl; simp at hgt
      grind

/-- An insertion is seen at its own key and nowhere else. -/
@[grind =] theorem get?_insert [Std.TransOrd κ] [Std.LawfulEqOrd κ]
    (m : SortedMap κ α) (k k' : κ) (v : α) :
    (m.insert k v).get? k' = if k' = k then some v else m.get? k' := by
  simp only [get?, insert, find?_insertEntry]
  split <;> rfl

/-- An erasure is seen at its own key and nowhere else. -/
@[grind =] theorem get?_erase (m : SortedMap κ α) (k k' : κ) :
    (m.erase k).get? k' = if k' = k then none else m.get? k' := by
  have h (es : List (κ × α)) : (es.filter (·.1 ≠ k)).find? (·.1 = k') =
      if k' = k then none else es.find? (·.1 = k') := by
    induction es <;> grind
  simp only [get?, erase, h]
  split <;> rfl

theorem get?_eq_some_iff [Std.TransOrd κ] [Std.LawfulEqOrd κ]
    {m : SortedMap κ α} {k : κ} {v : α} :
    m.get? k = some v ↔ (k, v) ∈ m.entries := by
  obtain ⟨es, h⟩ := m
  simp only [get?]
  induction es with
  | nil => simp
  | cons d rest ih =>
    obtain ⟨hd, hrest⟩ := List.pairwise_cons.1 h
    have hne : ∀ e ∈ rest, e.1 ≠ d.1 := fun e he heq => by
      have := hd e he; rw [heq] at this; simp at this
    have := ih hrest
    grind

/-- Look-ups determine the map. -/
theorem ext_get? [Std.TransOrd κ] [Std.LawfulEqOrd κ] {m n : SortedMap κ α}
    (h : ∀ k, m.get? k = n.get? k) : m = n := by
  have mem (e : κ × α) : e ∈ m.entries ↔ e ∈ n.entries := by
    rw [← get?_eq_some_iff, ← get?_eq_some_iff, h]
  obtain ⟨es, hes⟩ := m
  obtain ⟨fs, hfs⟩ := n
  congr
  simp only at mem
  clear h
  induction es generalizing fs with
  | nil => exact (List.eq_nil_iff_forall_not_mem.2 fun e he => by simpa using (mem e).2 he).symm
  | cons d rest ih =>
    obtain ⟨hd, hrest⟩ := List.pairwise_cons.1 hes
    cases fs with
    | nil => simpa using (mem d).1 (by simp)
    | cons f more =>
      obtain ⟨hf, hmore⟩ := List.pairwise_cons.1 hfs
      have irrefl (e : κ × α) : compare e.1 e.1 ≠ .lt := by simp
      have hdf : d = f := by
        rcases List.mem_cons.1 ((mem d).1 (by simp)) with rfl | hdm
        · rfl
        rcases List.mem_cons.1 ((mem f).2 (by simp)) with rfl | hfm
        · rfl
        exact absurd (Std.TransCmp.lt_trans (hd f hfm) (hf d hdm)) (irrefl d)
      subst hdf
      congr 1
      refine ih hrest more hmore fun e => ?_
      have he := mem e
      simp only [List.mem_cons] at he
      by_cases hed : e = d
      · subst hed
        exact ⟨fun h => absurd (hd e h) (irrefl e), fun h => absurd (hf e h) (irrefl e)⟩
      · simpa [hed] using he

end Laws
end SortedMap
end Haulage
