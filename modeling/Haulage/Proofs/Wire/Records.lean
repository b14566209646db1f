import Haulage.Proofs.Wire.Values
import Haulage.Wire.Records
import Haulage.Wire.Tariff

/-! Reference data and the records of a store are read from their own JSON, those with decimals
up to the sign of zero. -/
namespace Haulage

instance : LawfulJson TariffItem 1 :=
  .ofRecord TariffItem.fieldNames (fun _ => rfl) (fun _ => rfl) (by decide) (by simp)
    (fun _ => rfl) (by simp)

instance : LawfulJson TariffRate 1 :=
  .ofRecord TariffRate.fieldNames (fun _ => rfl) (fun _ => rfl) (by decide) (by simp)
    (fun _ => rfl) (by simp)

instance : LawfulJson ReferenceData 3 :=
  .ofRecord ReferenceData.fieldNames (fun _ => rfl) (fun _ => rfl) (by decide) (by simp)
    (fun _ => rfl) (by simp)

instance : LawfulJson FeeAndRate 1 :=
  .ofRecord ["fee", "rate"] (fun _ => rfl) (fun _ => rfl) (by decide) (by simp)
    (fun _ => rfl) (by simp)

instance : LawfulJson Address 1 :=
  .ofRecord Address.fieldNames (fun _ => rfl) (fun _ => rfl) (by decide) (by simp)
    (fun _ => rfl) (by simp)

instance : NeverNull FeeAndRate := ⟨nofun⟩
instance : NeverNull Address := ⟨nofun⟩

instance : LawfulJson Dimensions 1 :=
  .ofRecord Dimensions.fieldNames (fun _ => rfl) (fun _ => rfl) (by decide) (by simp)
    (fun _ => rfl) (by simp)

instance : LawfulJson Shipment 2 :=
  .ofRecord Shipment.fieldNames (fun _ => rfl) (fun _ => rfl) (by decide) (by simp)
    (fun _ => rfl) (by simp)

instance : LawfulJson LineItem 1 :=
  .ofRecord LineItem.fieldNames (fun _ => rfl) (fun _ => rfl) (by decide) (by simp)
    (fun _ => rfl) (by simp)

instance : LawfulJson Sit 1 :=
  .ofRecord Sit.fieldNames (fun _ => rfl) (fun _ => rfl) (by decide) (by simp)
    (fun _ => rfl) (by simp)

instance : LawfulJson Carrier 1 :=
  .ofRecord Carrier.fieldNames (fun _ => rfl) (fun _ => rfl) (by decide) (by simp)
    (fun _ => rfl) (by simp)

namespace CarrierPerformance

/-- The same standing, zeros without a sign. -/
def unsignedZeros (p : CarrierPerformance) : CarrierPerformance :=
  { p with linehaulRate := p.linehaulRate.unsignedZero, bestValueScore := p.bestValueScore.unsignedZero }

theorem plain_toJson : ∀ p : CarrierPerformance, (toJson p).Plain 1 :=
  LawfulJson.plain_record fieldNames (fun _ => rfl) (fun _ => rfl) (by decide)
    (by simp [Decimal.plain_toJson, DiscountRate.plain_toJson])

theorem ofJson?_toJson : ∀ p : CarrierPerformance, ofJson? (toJson p) = some p.unsignedZeros :=
  LawfulJson.ofJson?_record fieldNames (fun _ => rfl) (fun _ => rfl) (by decide)
    (fun _ => rfl) (by simp [Decimal.ofJson?_toJson, DiscountRate.ofJson?_toJson, unsignedZeros])

end CarrierPerformance

namespace Grouping

def fieldNames : List String := "id" :: GroupingKey.fieldNames

theorem plain_toJson : ∀ g : Grouping, (toJson g).Plain 1 :=
  LawfulJson.plain_record fieldNames (fun _ => rfl) (fun _ => rfl) (by decide)
    (by simp [GroupingKey.toFields])

theorem ofJsonAt?_toJson (depth : Nat) (g : Grouping) : ofJsonAt? depth (toJson g) = some g := by
  have written : toJson g = .object (("id", toJson g.id) :: g.key.toFields) := rfl
  have fields : Json.fields? fieldNames (.object (("id", toJson g.id) :: g.key.toFields)) =
      some (("id", toJson g.id) :: g.key.toFields) := Json.fields?_object rfl (by decide)
  have others : (("id", toJson g.id) :: g.key.toFields).filter (·.1 ≠ "id") = g.key.toFields := rfl
  have documents : Json.membersAt? (depth + 1) g.key.toFields = some g.key.toFields := rfl
  have key : GroupingKey.ofFields? (("id", toJson g.id) :: g.key.toFields) = some g.key := by
    simp [GroupingKey.ofFields?, GroupingKey.toFields]
  rw [written, ofJsonAt?, ← fieldNames, fields, others, documents]
  simp [key]

end Grouping

namespace Records

/-- The same records, zeros without a sign. -/
def unsignedZeros (r : Records) : Records :=
  { r with performances := r.performances.map CarrierPerformance.unsignedZeros }

theorem plain_toJson : ∀ r : Records, (toJson r).Plain 4 :=
  LawfulJson.plain_record fieldNames (fun _ => rfl) (fun _ => rfl) (by decide) <| by
    have performances (ps : List CarrierPerformance) : (toJson ps).Plain 3 :=
      (plain_list CarrierPerformance.plain_toJson ps).mono (by decide)
    have groupings (gs : List Grouping) : (toJson gs).Plain 3 :=
      (plain_list Grouping.plain_toJson gs).mono (by decide)
    simp [performances, groupings]

theorem ofJsonAt?_toJson (depth : Nat) (r : Records) :
    ofJsonAt? depth (toJson r) = some r.unsignedZeros := by
  have performances : ofJson? (toJson r.performances) =
      some (r.performances.map CarrierPerformance.unsignedZeros) :=
    mapM_written CarrierPerformance.ofJson?_toJson r.performances
  have values : ofJson? (toJson r.groupings) = some (r.groupings.map toJson) :=
    mapM_written (fun _ => rfl) r.groupings
  have groupings : (r.groupings.map toJson).mapM (Grouping.ofJsonAt? (depth + 2)) =
      some r.groupings := by
    rw [mapM_written (Grouping.ofJsonAt?_toJson _), List.map_id']
  have fields := LawfulJson.fields?_record fieldNames (fun _ => rfl) (fun _ => rfl) (by decide) r
  rw [ofJsonAt?, fields]
  simp [performances, groupings, values, unsignedZeros]

end Records
end Haulage
