import Haulage.Json.Basic
import Haulage.SortedMap

/-! Types with a JSON form. A record is written as an object with every field, `null`
where there is no value; it is read from an object, or from an array of its fields in
order. Fields it does not know are passed over, known ones may not be given twice. -/
namespace Haulage

/-- How values of the type are written. -/
class ToJson (α : Type) where
  toJson : α → Json

/-- Which JSON values are read as one of the type. -/
class OfJson (α : Type) where
  ofJson? : Json → Option α

export ToJson (toJson)
export OfJson (ofJson?)

instance : ToJson Json := ⟨id⟩
instance : OfJson Json := ⟨some⟩

instance : ToJson Bool := ⟨.bool⟩

instance : OfJson Bool where
  ofJson?
    | .bool b => some b
    | _ => none

instance : ToJson String := ⟨.text⟩

instance : OfJson String where
  ofJson?
    | .text s => some s
    | _ => none

def Json.toInt? : Json → Option Int
  | number n => n.toInt?
  | _ => none

instance : ToJson Nat := ⟨fun n => .ofInt n⟩

instance : OfJson Nat where
  ofJson? j := do
    let n ← j.toInt?
    if 0 ≤ n then some n.toNat else none

instance : ToJson Int64 := ⟨fun n => .ofInt n.toInt⟩
instance : OfJson Int64 := ⟨fun j => j.toInt?.bind int64?⟩

instance : ToJson Int32 := ⟨fun n => .ofInt n.toInt⟩

instance : OfJson Int32 where
  ofJson? j := do
    let n ← j.toInt?
    if -(twoTo 31 : Int) ≤ n ∧ n < twoTo 31 then some (Int32.ofInt n) else none

instance : ToJson UInt32 := ⟨fun n => .ofInt n.toNat⟩

instance : OfJson UInt32 where
  ofJson? j := do
    let n ← j.toInt?
    if 0 ≤ n ∧ n < twoTo 32 then some (UInt32.ofNat n.toNat) else none

section Compound
variable {α : Type}

/-- No value is `null`. -/
instance [ToJson α] : ToJson (Option α) where
  toJson
    | some a => toJson a
    | none => .null

instance [OfJson α] : OfJson (Option α) where
  ofJson?
    | .null => some none
    | j => (ofJson? j).map some

instance [ToJson α] : ToJson (List α) := ⟨fun as => .array (as.map toJson)⟩

instance [OfJson α] : OfJson (List α) where
  ofJson?
    | .array elements => elements.mapM ofJson?
    | _ => none

/-- A map is an object of its entries. -/
instance [ToJson α] : ToJson (SortedMap String α) where
  toJson m := .object (m.entries.map fun (key, a) => (key, toJson a))

/-- Of entries with one key the last counts. -/
instance [OfJson α] : OfJson (SortedMap String α) where
  ofJson?
    | .object members => .ofList <$> members.mapM fun (key, j) => (ofJson? j).map (key, ·)
    | _ => none

def Json.ofText (f : String → Option α) (j : Json) : Option α := (ofJson? j).bind f

/-- Reads the name of one of `all`: a string, or an object with the name as its only key
and `null` behind it. -/
def Json.ofName (all : List α) (name : α → String) : Json → Option α
  | .text s => named? all name s
  | .object [(s, .null)] => named? all name s
  | _ => none

end Compound

abbrev JsonFields := List (String × Json)

/-- The fields of a record: the members of an object that have one of the names, none
of them twice, or the elements of an array, no more than there are names. -/
def Json.fields? (names : List String) : Json → Option JsonFields
  | .object members =>
    let known := members.filter (·.1 ∈ names)
    if (known.map (·.1)).Nodup then some known else none
  | .array elements =>
    if elements.length ≤ names.length then some (names.zip elements) else none
  | _ => none

namespace JsonFields
variable {α : Type} [OfJson α]

/-- A field that must be there. -/
def required (fields : JsonFields) (name : String) : Option α :=
  (fields.lookup name).bind ofJson?

/-- A field that is `default` if it is not there. -/
def orDefault (fields : JsonFields) (name : String) (default : α) : Option α :=
  match fields.lookup name with
  | some j => ofJson? j
  | none => some default

/-- A field that may be missing or `null`. -/
def optional (fields : JsonFields) (name : String) : Option (Option α) :=
  fields.orDefault name none

end JsonFields
end Haulage
