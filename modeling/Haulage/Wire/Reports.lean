import Haulage.Recalculation
import Haulage.Wire.Records

/-! JSON forms of what users fill in and of what they get back. -/
namespace Haulage

namespace RequestForm

def fieldNames : List String :=
  ["tariff_code", "location", "quantity_1", "quantity_2", "notes", "description", "reason",
    "estimate_amount_cents", "actual_amount_cents", "item_dimensions", "crate_dimensions",
    "address"]

instance : ToJson RequestForm where
  toJson f := .object [
    ("tariff_code", toJson f.tariffCode),
    ("location", toJson f.location),
    ("quantity_1", toJson f.quantity1),
    ("quantity_2", toJson f.quantity2),
    ("notes", toJson f.notes),
    ("description", toJson f.description),
    ("reason", toJson f.reason),
    ("estimate_amount_cents", toJson f.estimateAmount),
    ("actual_amount_cents", toJson f.actualAmount),
    ("item_dimensions", toJson f.itemDimensions),
    ("crate_dimensions", toJson f.crateDimensions),
    ("address", toJson f.address)]

instance : OfJson RequestForm where
  ofJson? j := do
    let fields ← j.fields? fieldNames
    return {
      tariffCode := ← fields.required "tariff_code"
      location := ← fields.required "location"
      quantity1 := ← fields.required "quantity_1"
      quantity2 := ← fields.orDefault "quantity_2" .zero
      notes := ← fields.optional "notes"
      description := ← fields.optional "description"
      reason := ← fields.optional "reason"
      estimateAmount := ← fields.optional "estimate_amount_cents"
      actualAmount := ← fields.optional "actual_amount_cents"
      itemDimensions := ← fields.optional "item_dimensions"
      crateDimensions := ← fields.optional "crate_dimensions"
      address := ← fields.optional "address" }

end RequestForm

instance : ToJson QuotedCharge where
  toJson q := .object [
    ("category", toJson q.category),
    ("code", toJson q.category.code),
    ("charge", toJson q.charge)]

instance : ToJson Quote where
  toJson q := .object [
    ("discount", toJson q.discount),
    ("shipment_charge", toJson q.shipmentCharge),
    ("charges", toJson q.charges),
    ("total", toJson q.total)]

instance : ToJson PricingFailure where
  toJson f := .object [
    ("line_item_id", toJson f.lineItemId),
    ("tariff_code", toJson f.tariffCode),
    ("reason", toJson f.reason.message)]

instance : ToJson RecalculationReport where
  toJson r := .object [
    ("shipment_id", toJson r.shipmentId),
    ("line_items", toJson r.lineItems),
    ("created", toJson r.created),
    ("priced", toJson r.priced),
    ("unpriced", toJson r.unpriced),
    ("skipped_invoiced", toJson r.skippedInvoiced),
    ("failures", toJson r.failures),
    ("shipment_charge", toJson r.shipmentCharge)]

end Haulage
