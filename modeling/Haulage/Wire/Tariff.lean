import Haulage.Rates
import Haulage.Wire.Values

/-! JSON forms of tariff reference data. -/
namespace Haulage

namespace TariffItem

def fieldNames : List String :=
  ["code", "description", "requires_pre_approval", "discount_type", "measurement_unit"]

instance : ToJson TariffItem where
  toJson t := .object [
    ("code", toJson t.code),
    ("description", toJson t.description),
    ("requires_pre_approval", toJson t.requiresPreApproval),
    ("discount_type", toJson t.discountType),
    ("measurement_unit", toJson t.measurementUnit)]

instance : OfJson TariffItem where
  ofJson? j := do
    let fields ← j.fields? fieldNames
    return {
      code := ← fields.required "code"
      description := ← fields.required "description"
      requiresPreApproval := ← fields.required "requires_pre_approval"
      discountType := ← fields.required "discount_type"
      measurementUnit := ← fields.required "measurement_unit" }

end TariffItem

namespace TariffRate

def fieldNames : List String :=
  ["code", "effective_date_lower", "effective_date_upper", "weight_lbs_lower",
    "weight_lbs_upper", "distance_miles_lower", "distance_miles_upper", "rate_millicents"]

instance : ToJson TariffRate where
  toJson r := .object [
    ("code", toJson r.code),
    ("effective_date_lower", toJson r.dateLower),
    ("effective_date_upper", toJson r.dateUpper),
    ("weight_lbs_lower", toJson r.weightLower),
    ("weight_lbs_upper", toJson r.weightUpper),
    ("distance_miles_lower", toJson r.milesLower),
    ("distance_miles_upper", toJson r.milesUpper),
    ("rate_millicents", toJson r.rate)]

instance : OfJson TariffRate where
  ofJson? j := do
    let fields ← j.fields? fieldNames
    return {
      code := ← fields.required "code"
      dateLower := ← fields.required "effective_date_lower"
      dateUpper := ← fields.required "effective_date_upper"
      weightLower := ← fields.required "weight_lbs_lower"
      weightUpper := ← fields.required "weight_lbs_upper"
      milesLower := ← fields.optional "distance_miles_lower"
      milesUpper := ← fields.optional "distance_miles_upper"
      rate := ← fields.required "rate_millicents" }

end TariffRate

namespace ReferenceData

def fieldNames : List String := ["tariff_items", "rates", "rate_areas", "regions"]

instance : ToJson ReferenceData where
  toJson r := .object [
    ("tariff_items", toJson r.tariffItems),
    ("rates", toJson r.rates),
    ("rate_areas", toJson r.rateAreas),
    ("regions", toJson r.regions)]

instance : OfJson ReferenceData where
  ofJson? j := do
    let fields ← j.fields? fieldNames
    return {
      tariffItems := ← fields.orDefault "tariff_items" []
      rates := ← fields.orDefault "rates" []
      rateAreas := ← fields.orDefault "rate_areas" .empty
      regions := ← fields.orDefault "regions" .empty }

end ReferenceData
end Haulage
