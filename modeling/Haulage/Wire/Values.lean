import Haulage.Calendar.Timestamp
import Haulage.Identifier
import Haulage.Json.Record
import Haulage.Status
import Haulage.Tariff

/-! JSON forms of the values that fields hold. Amounts, weights and quantities are
integers; decimals, dates, times and identifiers are strings by their own text rules;
enumerations are strings by name. -/
namespace Haulage

instance : ToJson Cents := ⟨fun c => toJson c.val⟩
instance : OfJson Cents := ⟨fun j => (ofJson? j).map (⟨·⟩)⟩

instance : ToJson Millicents := ⟨fun m => toJson m.val⟩
instance : OfJson Millicents := ⟨fun j => (ofJson? j).map (⟨·⟩)⟩

instance : ToJson Pounds := ⟨fun p => toJson p.val⟩
instance : OfJson Pounds := ⟨fun j => (ofJson? j).map (⟨·⟩)⟩

instance : ToJson Quantity := ⟨fun q => toJson q.val⟩
instance : OfJson Quantity := ⟨fun j => (ofJson? j).map (⟨·⟩)⟩

instance : ToJson ThousandthInches := ⟨fun t => toJson t.val⟩
instance : OfJson ThousandthInches := ⟨fun j => (ofJson? j).map (⟨·⟩)⟩

/-- A decimal is written as a string, to keep its places. -/
instance : ToJson Decimal := ⟨fun a => .text a.toText⟩

instance : OfJson Decimal where
  ofJson?
    | .text s => Decimal.ofText? s
    | .number n => n.toDecimal?
    | _ => none

instance : ToJson DiscountRate := ⟨fun d => toJson d.value⟩
instance : OfJson DiscountRate := ⟨fun j => (ofJson? j).bind DiscountRate.of?⟩

instance : ToJson Date := ⟨fun d => .text d.toText⟩
instance : OfJson Date := ⟨Json.ofText Date.ofText?⟩

instance : ToJson Timestamp := ⟨fun t => .text t.toText⟩
instance : OfJson Timestamp := ⟨Json.ofText Timestamp.ofText?⟩

instance {e : Entity} : ToJson (Id e) := ⟨fun id => .text id.uuid.toText⟩
instance {e : Entity} : OfJson (Id e) := ⟨Json.ofText Id.ofText?⟩

instance : ToJson ShipmentStatus := ⟨fun s => .text s.name⟩
instance : OfJson ShipmentStatus := ⟨Json.ofName ShipmentStatus.all ShipmentStatus.name⟩

instance : ToJson LineItemLocation := ⟨fun l => .text l.name⟩
instance : OfJson LineItemLocation := ⟨Json.ofName LineItemLocation.all LineItemLocation.name⟩

instance : ToJson LineItemStatus := ⟨fun s => .text s.name⟩
instance : OfJson LineItemStatus := ⟨Json.ofName LineItemStatus.all LineItemStatus.name⟩

instance : ToJson SitLocation := ⟨fun l => .text l.name⟩
instance : OfJson SitLocation := ⟨Json.ofName SitLocation.all SitLocation.name⟩

instance : ToJson SitStatus := ⟨fun s => .text s.name⟩
instance : OfJson SitStatus := ⟨Json.ofName SitStatus.all SitStatus.name⟩

instance : ToJson DiscountType := ⟨fun d => .text d.name⟩
instance : OfJson DiscountType := ⟨Json.ofName DiscountType.all DiscountType.name⟩

instance : ToJson MeasurementUnit := ⟨fun u => .text u.name⟩
instance : OfJson MeasurementUnit := ⟨Json.ofName MeasurementUnit.all MeasurementUnit.name⟩

instance : ToJson BaseCategory := ⟨fun c => .text c.name⟩
instance : OfJson BaseCategory := ⟨Json.ofName BaseCategory.all BaseCategory.name⟩

instance : ToJson FeeAndRate where
  toJson c := .object [("fee", toJson c.fee), ("rate", toJson c.rate)]

instance : OfJson FeeAndRate where
  ofJson? j := do
    let fields ← j.fields? ["fee", "rate"]
    return { fee := ← fields.required "fee", rate := ← fields.required "rate" }

end Haulage
