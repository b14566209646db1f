import Haulage.Config
import Haulage.Json.Text
import Haulage.Wire.Records
import Haulage.Wire.Tariff

/-! Datasets: reference tables together with the records that a store begins with, as
one JSON text. -/
namespace Haulage

structure Dataset where
  reference : ReferenceData := {}
  records : Records := {}
deriving DecidableEq, Inhabited

namespace Dataset

def fieldNames : List String := ["reference", "records"]

instance : ToJson Dataset where
  toJson d := .object [("reference", toJson d.reference), ("records", toJson d.records)]

instance : OfJson Dataset where
  ofJson? j := do
    let fields ← j.fields? fieldNames
    let records ← match fields.lookup "records" with
      | some j => Records.ofJsonAt? 1 j
      | none => some {}
    return { records, reference := ← fields.orDefault "reference" {} }

def toText (d : Dataset) : String := (toJson d).toText

def ofText? (s : String) : Option Dataset := (Json.ofText? s).bind ofJson?

def ofText (s : String) : Except Error Dataset :=
  match ofText? s with
  | some d => .ok d
  | none => .error (.config .invalidDataset)

def load (files : Files) (name : String) : Except Error Dataset := do
  ofText (← files.read name)

def parts (d : Dataset) : Except Error (RateTable × Store) := do
  let rates ← RateTable.ofReference d.reference
  let store ← ofStore (Store.ofRecords d.records)
  return (rates, store)

end Dataset

namespace ReferenceData

def ofText? (s : String) : Option ReferenceData := (Json.ofText? s).bind ofJson?

/-- Reference tables from a document: all of it, or its member `reference` if there is
one, as in a dataset. -/
def ofDocument? (s : String) : Option ReferenceData := do
  let j ← (← Json.ofText? s).document?
  ofJson? ((j.get? "reference").getD j)

end ReferenceData

namespace RateTable

/-- The table of reference data that may not have been readable. -/
def ofReadable (data : Option ReferenceData) : Except Error RateTable :=
  match data with
  | some data => ofReference data
  | none => .error (.config .invalidReference)

def ofText (s : String) : Except Error RateTable := ofReadable (ReferenceData.ofText? s)

def load (files : Files) (name : String) : Except Error RateTable := do
  ofReadable (ReferenceData.ofDocument? (← files.read name))

end RateTable
end Haulage
