import Haulage.Json.Record
import Haulage.Proofs.Json.Text

/-! Types whose values are read from their own JSON: plain values, options, lists and maps of
such types, and records by their fields. -/
namespace Haulage

/-- Values are written as plain JSON, no higher than `height`, and read from it. -/
class LawfulJson (α : Type) [ToJson α] [OfJson α] (height : outParam Nat) : Prop where
  plain : ∀ a : α, (toJson a).Plain height
  ofJson?_toJson : ∀ a : α, ofJson? (toJson a) = some a

/-- No value is written as `null`. -/
class NeverNull (α : Type) [ToJson α] : Prop where
  toJson_ne_null : ∀ a : α, toJson a ≠ .null

export LawfulJson (ofJson?_toJson)
export NeverNull (toJson_ne_null)

instance : LawfulJson Bool 0 := ⟨fun b => .bool b, fun _ => rfl⟩
instance : LawfulJson String 0 := ⟨fun s => .text s, fun _ => rfl⟩

instance : NeverNull String := ⟨nofun⟩

theorem Json.toInt?_ofInt (n : Int) : (ofInt n).toInt? = some n := JsonNumber.toInt?_ofInt n

theorem twoTo_63 : twoTo 63 = 9223372036854775808 := rfl
theorem twoTo_64 : twoTo 64 = 18446744073709551616 := rfl

instance : LawfulJson Int64 0 where
  plain n := by
    have := n.le_toInt
    have := n.toInt_lt
    have := twoTo_63
    have := twoTo_64
    exact .int _ (by omega) (by omega)
  ofJson?_toJson n := by
    have := n.le_toInt
    have := n.toInt_lt
    have := twoTo_63
    show (Json.toInt? (.ofInt n.toInt)).bind int64? = some n
    rw [Json.toInt?_ofInt, Option.bind_some, int64?, if_pos (by omega), Int64.ofInt_toInt]

instance : LawfulJson Int32 0 where
  plain n := by
    have := n.le_toInt
    have := n.toInt_lt
    have := twoTo_63
    have := twoTo_64
    exact .int _ (by omega) (by omega)
  ofJson?_toJson n := by
    have := n.le_toInt
    have := n.toInt_lt
    have : twoTo 31 = 2147483648 := rfl
    show ((Json.toInt? (.ofInt n.toInt)).bind fun n =>
      if -(twoTo 31 : Int) ≤ n ∧ n < twoTo 31 then some (Int32.ofInt n) else none) = some n
    rw [Json.toInt?_ofInt, Option.bind_some, if_pos (by omega), Int32.ofInt_toInt]

instance : LawfulJson UInt32 0 where
  plain n := by
    have := n.toNat_lt
    have := twoTo_64
    exact .int _ (by omega) (by omega)
  ofJson?_toJson n := by
    have := n.toNat_lt
    have : twoTo 32 = 4294967296 := rfl
    show ((Json.toInt? (.ofInt n.toNat)).bind fun n =>
      if 0 ≤ n ∧ n < twoTo 32 then some (UInt32.ofNat n.toNat) else none) = some n
    rw [Json.toInt?_ofInt, Option.bind_some, if_pos (by omega), Int.toNat_natCast,
      UInt32.ofNat_toNat]

instance : NeverNull UInt32 := ⟨nofun⟩

section Compound
variable {α : Type} [ToJson α] {h : Nat}

theorem plain_list (plain : ∀ a : α, (toJson a).Plain h) (as : List α) :
    (toJson as).Plain (h + 1) :=
  .array (List.forall_mem_map.2 fun a _ => plain a)

variable [OfJson α] [LawfulJson α h]

instance [NeverNull α] : LawfulJson (Option α) h where
  plain
    | some a => LawfulJson.plain a
    | none => .null
  ofJson?_toJson
    | none => rfl
    | some a => by
      show (match toJson a with | .null => some none | j => (ofJson? j).map some) = _
      have read := ofJson?_toJson a
      split
      · next null => exact absurd null (toJson_ne_null a)
      · rw [read, Option.map_some]

instance : LawfulJson (List α) (h + 1) where
  plain := plain_list LawfulJson.plain
  ofJson?_toJson as := by
    show (as.map toJson).mapM ofJson? = some as
    rw [mapM_written ofJson?_toJson, List.map_id']

end Compound

namespace SortedMap
variable {κ α : Type} [Ord κ] [Std.TransOrd κ]

theorem nodup_keys (m : SortedMap κ α) : m.keys.Nodup :=
  List.pairwise_map.2 <| m.ascending.imp fun {a b} less same => by
    rw [same] at less
    simp at less

theorem insertEntry_last {k : κ} {v : α} {es : List (κ × α)}
    (below : ∀ e ∈ es, compare e.1 k = .lt) : insertEntry k v es = es ++ [(k, v)] := by
  induction es with
  | nil => rfl
  | cons e rest ih =>
    obtain ⟨here, there⟩ := List.forall_mem_cons.1 below
    rw [insertEntry, Std.OrientedCmp.gt_of_lt here, ih there]
    rfl

variable [Std.LawfulEqOrd κ]

theorem entries_foldl_insert (es : List (κ × α)) {m : SortedMap κ α}
    (ascending : (m.entries ++ es).Pairwise fun a b => compare a.1 b.1 = .lt) :
    (es.foldl (fun m e => m.insert e.1 e.2) m).entries = m.entries ++ es := by
  induction es generalizing m with
  | nil => rw [List.append_nil, List.foldl_nil]
  | cons e rest ih =>
    have last : (m.insert e.1 e.2).entries = m.entries ++ [e] :=
      insertEntry_last fun d mem => (List.pairwise_append.1 ascending).2.2 d mem e List.mem_cons_self
    rw [List.foldl_cons, ih, last, List.append_assoc, List.singleton_append]
    rwa [last, List.append_assoc, List.singleton_append]

/-- A map is what its entries make when they are inserted in order. -/
theorem ofList_entries (m : SortedMap κ α) : ofList m.entries = m :=
  SortedMap.ext (entries_foldl_insert m.entries m.ascending)

end SortedMap

instance {α : Type} [ToJson α] [OfJson α] {h : Nat} [LawfulJson α h] :
    LawfulJson (SortedMap String α) (h + 1) where
  plain m := by
    refine .object (List.forall_mem_map.2 fun entry _ => LawfulJson.plain entry.2) ?_
    rw [List.map_map]
    exact m.nodup_keys
  ofJson?_toJson m := by
    have entry (e : String × α) : (ofJson? (toJson e.2)).map (e.1, ·) = some e := by
      rw [ofJson?_toJson, Option.map_some]
    show SortedMap.ofList <$> (m.entries.map fun (key, a) => (key, toJson a)).mapM
      (fun (key, j) => (ofJson? j).map (key, ·)) = some m
    rw [mapM_written entry, List.map_id', Option.map_eq_map, Option.map_some,
      SortedMap.ofList_entries]

namespace JsonFields
variable {α : Type} [OfJson α] {name other : String} {j : Json} {rest : JsonFields} {default : α}

@[simp] theorem required_self : required ((name, j) :: rest) name = (ofJson? j : Option α) := by
  rw [required, List.lookup_cons_self, Option.bind_some]

@[simp] theorem orDefault_self : orDefault ((name, j) :: rest) name default = ofJson? j := by
  rw [orDefault, List.lookup_cons_self]

theorem lookup_of_ne (apart : name ≠ other) :
    List.lookup name ((other, j) :: rest) = List.lookup name rest := by
  rw [List.lookup_cons, beq_false_of_ne apart]

@[simp] theorem required_of_ne (apart : name ≠ other) :
    required ((other, j) :: rest) name = (required rest name : Option α) := by
  rw [required, lookup_of_ne apart, ← required]

@[simp] theorem orDefault_of_ne (apart : name ≠ other) :
    orDefault ((other, j) :: rest) name default = orDefault rest name default := by
  rw [orDefault, lookup_of_ne apart, ← orDefault]

attribute [simp] optional

end JsonFields

/-- An object with just the fields of a record. -/
theorem Json.fields?_object {names : List String} {members : JsonFields}
    (all : members.map (·.1) = names) (distinct : names.Nodup) :
    (object members).fields? names = some members := by
  have known : members.filter (·.1 ∈ names) = members :=
    List.filter_eq_self.2 fun m mem => by
      rw [← all, decide_eq_true_eq]
      exact List.mem_map_of_mem mem
  have once : ((members.filter (·.1 ∈ names)).map (·.1)).Nodup := by
    rw [known, all]
    exact distinct
  rw [fields?, if_pos once, known]

namespace LawfulJson
variable {α : Type} [ToJson α] {h : Nat}

attribute [simp] ofJson?_toJson

@[simp] theorem plain_of_le [OfJson α] {k : Nat} [LawfulJson α k] (a : α) (le : k ≤ h) : (toJson a).Plain h :=
  (LawfulJson.plain a).mono le

section Record
variable (names : List String) {members : α → JsonFields} {read : JsonFields → Option α}
  (written : ∀ a, toJson a = .object (members a)) (all : ∀ a, (members a).map (·.1) = names)
  (distinct : names.Nodup)
include written all distinct

theorem plain_record (plain : ∀ a, ∀ m ∈ members a, m.2.Plain h) (a : α) :
    (toJson a).Plain (h + 1) := by
  rw [written]
  refine .object (plain a) ?_
  rw [all]
  exact distinct

theorem fields?_record (a : α) : (toJson a).fields? names = some (members a) := by
  rw [written, Json.fields?_object (all a) distinct]

theorem ofJson?_record [OfJson α] {f : α → α} (parsed : ∀ j : Json, ofJson? j = (j.fields? names).bind read)
    (reads : ∀ a, read (members a) = some (f a)) (a : α) : ofJson? (toJson a) = some (f a) := by
  rw [parsed, fields?_record names written all distinct, Option.bind_some, reads]

/-- A type whose values are written as objects with all the fields by `names`, and read from
them. -/
theorem ofRecord [OfJson α] (plain : ∀ a, ∀ m ∈ members a, m.2.Plain h)
    (parsed : ∀ j : Json, ofJson? j = (j.fields? names).bind read)
    (reads : ∀ a, read (members a) = some a) : LawfulJson α (h + 1) :=
  ⟨plain_record names written all distinct plain,
    ofJson?_record names written all distinct parsed reads⟩

end Record
end LawfulJson
end Haulage
