import Haulage.Store
import Haulage.Wire.Values

/-! JSON forms of the records that a store holds. Every field is written, and those
without a value are `null`; when read, these may also be missing. -/
namespace Haulage

namespace Address

def fieldNames : List String :=
  ["id", "street_address_1", "street_address_2", "city", "state", "postal_code"]

instance : ToJson Address where
  toJson a := .object [
    ("id", toJson a.id),
    ("street_address_1", toJson a.street1),
    ("street_address_2", toJson a.street2),
    ("city", toJson a.city),
    ("state", toJson a.state),
    ("postal_code", toJson a.postalCode)]

instance : OfJson Address where
  ofJson? j := do
    let fields ← j.fields? fieldNames
    return {
      id := ← fields.required "id"
      street1 := ← fields.required "street_address_1"
      street2 := ← fields.optional "street_address_2"
      city := ← fields.required "city"
      state := ← fields.required "state"
      postalCode := ← fields.required "postal_code" }

end Address

namespace Dimensions

def fieldNames : List String := ["id", "length", "width", "height"]

instance : ToJson Dimensions where
  toJson d := .object [
    ("id", toJson d.id),
    ("length", toJson d.length),
    ("width", toJson d.width),
    ("height", toJson d.height)]

instance : OfJson Dimensions where
  ofJson? j := do
    let fields ← j.fields? fieldNames
    return {
      id := ← fields.required "id"
      length := ← fields.required "length"
      width := ← fields.required "width"
      height := ← fields.required "height" }

end Dimensions

namespace Shipment

def fieldNames : List String :=
  ["id", "status", "net_weight", "pickup_address", "delivery_address", "book_date",
    "requested_pickup_date", "actual_pickup_date", "actual_delivery_date",
    "traffic_distribution_grouping_id", "carrier_performance_id", "linehaul_charge"]

instance : ToJson Shipment where
  toJson s := .object [
    ("id", toJson s.id),
    ("status", toJson s.status),
    ("net_weight", toJson s.netWeight),
    ("pickup_address", toJson s.pickupAddress),
    ("delivery_address", toJson s.deliveryAddress),
    ("book_date", toJson s.bookDate),
    ("requested_pickup_date", toJson s.requestedPickupDate),
    ("actual_pickup_date", toJson s.actualPickupDate),
    ("actual_delivery_date", toJson s.actualDeliveryDate),
    ("traffic_distribution_grouping_id", toJson s.groupingId),
    ("carrier_performance_id", toJson s.performanceId),
    ("linehaul_charge", toJson s.linehaulCharge)]

instance : OfJson Shipment where
  ofJson? j := do
    let fields ← j.fields? fieldNames
    return {
      id := ← fields.required "id"
      status := ← fields.required "status"
      netWeight := ← fields.optional "net_weight"
      pickupAddress := ← fields.optional "pickup_address"
      deliveryAddress := ← fields.optional "delivery_address"
      bookDate := ← fields.optional "book_date"
      requestedPickupDate := ← fields.optional "requested_pickup_date"
      actualPickupDate := ← fields.optional "actual_pickup_date"
      actualDeliveryDate := ← fields.optional "actual_delivery_date"
      groupingId := ← fields.optional "traffic_distribution_grouping_id"
      performanceId := ← fields.optional "carrier_performance_id"
      linehaulCharge := ← fields.optional "linehaul_charge" }

end Shipment

namespace LineItem

def fieldNames : List String :=
  ["id", "shipment_id", "tariff_code", "location", "quantity_1", "quantity_2", "notes", "status",
    "invoice_id", "estimate_amount_cents", "actual_amount_cents", "amount_cents", "applied_rate",
    "submitted_date", "approved_date", "item_dimensions_id", "crate_dimensions_id", "address_id",
    "storage_in_transit_id", "description", "reason", "created_at"]

instance : ToJson LineItem where
  toJson i := .object [
    ("id", toJson i.id),
    ("shipment_id", toJson i.shipmentId),
    ("tariff_code", toJson i.tariffCode),
    ("location", toJson i.location),
    ("quantity_1", toJson i.quantity1),
    ("quantity_2", toJson i.quantity2),
    ("notes", toJson i.notes),
    ("status", toJson i.status),
    ("invoice_id", toJson i.invoiceId),
    ("estimate_amount_cents", toJson i.estimateAmount),
    ("actual_amount_cents", toJson i.actualAmount),
    ("amount_cents", toJson i.amount),
    ("applied_rate", toJson i.appliedRate),
    ("submitted_date", toJson i.submittedDate),
    ("approved_date", toJson i.approvedDate),
    ("item_dimensions_id", toJson i.itemDimensionsId),
    ("crate_dimensions_id", toJson i.crateDimensionsId),
    ("address_id", toJson i.addressId),
    ("storage_in_transit_id", toJson i.sitId),
    ("description", toJson i.description),
    ("reason", toJson i.reason),
    ("created_at", toJson i.createdAt)]

instance : OfJson LineItem where
  ofJson? j := do
    let fields ← j.fields? fieldNames
    return {
      id := ← fields.required "id"
      shipmentId := ← fields.required "shipment_id"
      tariffCode := ← fields.required "tariff_code"
      location := ← fields.required "location"
      quantity1 := ← fields.required "quantity_1"
      quantity2 := ← fields.orDefault "quantity_2" .zero
      notes := ← fields.optional "notes"
      status := ← fields.required "status"
      invoiceId := ← fields.optional "invoice_id"
      estimateAmount := ← fields.optional "estimate_amount_cents"
      actualAmount := ← fields.optional "actual_amount_cents"
      amount := ← fields.optional "amount_cents"
      appliedRate := ← fields.optional "applied_rate"
      submittedDate := ← fields.required "submitted_date"
      approvedDate := ← fields.optional "approved_date"
      itemDimensionsId := ← fields.optional "item_dimensions_id"
      crateDimensionsId := ← fields.optional "crate_dimensions_id"
      addressId := ← fields.optional "address_id"
      sitId := ← fields.optional "storage_in_transit_id"
      description := ← fields.optional "description"
      reason := ← fields.optional "reason"
      createdAt := ← fields.required "created_at" }

end LineItem

namespace Sit

def fieldNames : List String :=
  ["id", "shipment_id", "sit_number", "status", "location", "estimated_start_date",
    "authorized_start_date", "actual_start_date", "out_date", "notes", "authorization_notes",
    "warehouse_id", "warehouse_name", "warehouse_address_id", "warehouse_phone",
    "warehouse_email", "created_at"]

instance : ToJson Sit where
  toJson s := .object [
    ("id", toJson s.id),
    ("shipment_id", toJson s.shipmentId),
    ("sit_number", toJson s.sitNumber),
    ("status", toJson s.status),
    ("location", toJson s.location),
    ("estimated_start_date", toJson s.estimatedStartDate),
    ("authorized_start_date", toJson s.authorizedStartDate),
    ("actual_start_date", toJson s.actualStartDate),
    ("out_date", toJson s.outDate),
    ("notes", toJson s.notes),
    ("authorization_notes", toJson s.authorizationNotes),
    ("warehouse_id", toJson s.warehouseId),
    ("warehouse_name", toJson s.warehouseName),
    ("warehouse_address_id", toJson s.warehouseAddressId),
    ("warehouse_phone", toJson s.warehousePhone),
    ("warehouse_email", toJson s.warehouseEmail),
    ("created_at", toJson s.createdAt)]

instance : OfJson Sit where
  ofJson? j := do
    let fields ← j.fields? fieldNames
    return {
      id := ← fields.required "id"
      shipmentId := ← fields.required "shipment_id"
      sitNumber := ← fields.optional "sit_number"
      status := ← fields.required "status"
      location := ← fields.required "location"
      estimatedStartDate := ← fields.required "estimated_start_date"
      authorizedStartDate := ← fields.optional "authorized_start_date"
      actualStartDate := ← fields.optional "actual_start_date"
      outDate := ← fields.optional "out_date"
      notes := ← fields.optional "notes"
      authorizationNotes := ← fields.optional "authorization_notes"
      warehouseId := ← fields.required "warehouse_id"
      warehouseName := ← fields.required "warehouse_name"
      warehouseAddressId := ← fields.required "warehouse_address_id"
      warehousePhone := ← fields.optional "warehouse_phone"
      warehouseEmail := ← fields.optional "warehouse_email"
      createdAt := ← fields.required "created_at" }

end Sit

namespace Carrier

def fieldNames : List String := ["id", "name", "enrolled"]

instance : ToJson Carrier where
  toJson c := .object [
    ("id", toJson c.id),
    ("name", toJson c.name),
    ("enrolled", toJson c.enrolled)]

instance : OfJson Carrier where
  ofJson? j := do
    let fields ← j.fields? fieldNames
    return {
      id := ← fields.required "id"
      name := ← fields.required "name"
      enrolled := ← fields.required "enrolled" }

end Carrier

namespace CarrierPerformance

def fieldNames : List String :=
  ["id", "grouping_id", "carrier_id", "linehaul_rate", "offer_count", "best_value_score",
    "performance_period_start", "performance_period_end", "rate_cycle_start", "rate_cycle_end"]

instance : ToJson CarrierPerformance where
  toJson p := .object [
    ("id", toJson p.id),
    ("grouping_id", toJson p.groupingId),
    ("carrier_id", toJson p.carrierId),
    ("linehaul_rate", toJson p.linehaulRate),
    ("offer_count", toJson p.offerCount),
    ("best_value_score", toJson p.bestValueScore),
    ("performance_period_start", toJson p.periodStart),
    ("performance_period_end", toJson p.periodEnd),
    ("rate_cycle_start", toJson p.cycleStart),
    ("rate_cycle_end", toJson p.cycleEnd)]

instance : OfJson CarrierPerformance where
  ofJson? j := do
    let fields ← j.fields? fieldNames
    return {
      id := ← fields.required "id"
      groupingId := ← fields.required "grouping_id"
      carrierId := ← fields.required "carrier_id"
      linehaulRate := ← fields.required "linehaul_rate"
      offerCount := ← fields.required "offer_count"
      bestValueScore := ← fields.required "best_value_score"
      periodStart := ← fields.required "performance_period_start"
      periodEnd := ← fields.required "performance_period_end"
      cycleStart := ← fields.required "rate_cycle_start"
      cycleEnd := ← fields.required "rate_cycle_end" }

end CarrierPerformance

namespace GroupingKey

def fieldNames : List String := ["source_rate_area", "destination_region", "code_of_service"]

/-- The fields of a key, wherever they stand. -/
def toFields (k : GroupingKey) : JsonFields := [
  ("source_rate_area", toJson k.sourceRateArea),
  ("destination_region", toJson k.destinationRegion),
  ("code_of_service", toJson k.codeOfService)]

def ofFields? (fields : JsonFields) : Option GroupingKey := do
  return {
    sourceRateArea := ← fields.required "source_rate_area"
    destinationRegion := ← fields.required "destination_region"
    codeOfService := ← fields.required "code_of_service" }

instance : ToJson GroupingKey := ⟨fun k => .object k.toFields⟩
instance : OfJson GroupingKey := ⟨fun j => (j.fields? fieldNames).bind ofFields?⟩

end GroupingKey

namespace Grouping

/-- A grouping is flat: the fields of its key stand beside the id. -/
instance : ToJson Grouping := ⟨fun g => .object (("id", toJson g.id) :: g.key.toFields)⟩

/-- A grouping that stands `depth` values within others. It is read from objects only,
and fields it does not know have to be documents too. -/
def ofJsonAt? (depth : Nat) : Json → Option Grouping
  | .object members => do
    let fields ← Json.fields? ("id" :: GroupingKey.fieldNames) (.object members)
    let id ← fields.required "id"
    let _ ← Json.membersAt? (depth + 1) (members.filter (·.1 ≠ "id"))
    return { id, key := ← GroupingKey.ofFields? fields }
  | _ => none

instance : OfJson Grouping := ⟨ofJsonAt? 0⟩

end Grouping

namespace Records

def fieldNames : List String :=
  ["shipments", "line_items", "dimensions", "addresses", "storage_in_transits", "carriers",
    "carrier_performances", "traffic_distribution_groupings"]

instance : ToJson Records where
  toJson r := .object [
    ("shipments", toJson r.shipments),
    ("line_items", toJson r.lineItems),
    ("dimensions", toJson r.dimensions),
    ("addresses", toJson r.addresses),
    ("storage_in_transits", toJson r.sits),
    ("carriers", toJson r.carriers),
    ("carrier_performances", toJson r.performances),
    ("traffic_distribution_groupings", toJson r.groupings)]

/-- Records that stand `depth` values within others. -/
def ofJsonAt? (depth : Nat) (j : Json) : Option Records := do
  let fields ← j.fields? fieldNames
  let groupings : List Json ← fields.orDefault "traffic_distribution_groupings" []
  return {
    shipments := ← fields.orDefault "shipments" []
    lineItems := ← fields.orDefault "line_items" []
    dimensions := ← fields.orDefault "dimensions" []
    addresses := ← fields.orDefault "addresses" []
    sits := ← fields.orDefault "storage_in_transits" []
    carriers := ← fields.orDefault "carriers" []
    performances := ← fields.orDefault "carrier_performances" []
    groupings := ← groupings.mapM (Grouping.ofJsonAt? (depth + 2)) }

instance : OfJson Records := ⟨ofJsonAt? 0⟩

end Records
end Haulage
