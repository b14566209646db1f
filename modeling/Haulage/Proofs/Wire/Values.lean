import Haulage.Proofs.Calendar.Timestamp
import Haulage.Proofs.Decimal.Text
import Haulage.Proofs.Identifier
import Haulage.Proofs.Json.Record
import Haulage.Wire.Values

/-! The values that fields hold are read from their own JSON. Decimals are read so up to the sign
of zero, which their text keeps and reading drops. -/
namespace Haulage

namespace LawfulJson
variable {α β : Type} [ToJson α] [OfJson α] [ToJson β] [OfJson β] {h : Nat}

/-- A type with a single field that is written as the field. -/
theorem ofField [LawfulJson α h] (field : β → α) (make : α → β)
    (written : ∀ b, toJson b = toJson (field b))
    (read : ∀ j, (ofJson? j : Option β) = (ofJson? j).map make)
    (made : ∀ b, make (field b) = b) : LawfulJson β h where
  plain b := by
    rw [written]
    exact LawfulJson.plain (field b)
  ofJson?_toJson b := by
    rw [written, read, LawfulJson.ofJson?_toJson, Option.map_some, made]

/-- A type that is written as a text. -/
theorem ofText (text : α → String) (parse : String → Option α)
    (written : ∀ a, toJson a = .text (text a)) (read : ∀ s, ofJson? (.text s) = parse s)
    (parsed : ∀ a, parse (text a) = some a) : LawfulJson α 0 where
  plain a := by
    rw [written]
    exact .text _
  ofJson?_toJson a := by rw [written, read, parsed]

end LawfulJson

theorem NeverNull.ofText {α : Type} [ToJson α] (text : α → String)
    (written : ∀ a, toJson a = .text (text a)) : NeverNull α where
  toJson_ne_null a := by
    rw [written]
    nofun

instance : LawfulJson Cents 0 :=
  .ofField Cents.val Cents.mk (fun _ => rfl) (fun _ => rfl) (fun _ => rfl)

instance : LawfulJson Millicents 0 :=
  .ofField Millicents.val Millicents.mk (fun _ => rfl) (fun _ => rfl) (fun _ => rfl)

instance : LawfulJson Pounds 0 :=
  .ofField Pounds.val Pounds.mk (fun _ => rfl) (fun _ => rfl) (fun _ => rfl)

instance : LawfulJson Quantity 0 :=
  .ofField Quantity.val Quantity.mk (fun _ => rfl) (fun _ => rfl) (fun _ => rfl)

instance : LawfulJson ThousandthInches 0 :=
  .ofField ThousandthInches.val ThousandthInches.mk (fun _ => rfl) (fun _ => rfl) (fun _ => rfl)

instance : NeverNull Cents := ⟨nofun⟩
instance : NeverNull Millicents := ⟨nofun⟩
instance : NeverNull Pounds := ⟨nofun⟩

theorem Decimal.plain_toJson (a : Decimal) : (toJson a).Plain 0 := .text _

theorem Decimal.ofJson?_toJson (a : Decimal) : ofJson? (toJson a) = some a.unsignedZero :=
  a.ofText?_toText

namespace DiscountRate

/-- The same part, zero without a sign. -/
def unsignedZero (d : DiscountRate) : DiscountRate where
  value := d.value.unsignedZero
  nonneg := by
    rw [Decimal.unsignedZero_mantissa]
    exact d.nonneg
  le_one := by
    rw [Decimal.unsignedZero_mantissa]
    exact d.le_one

theorem plain_toJson (d : DiscountRate) : (toJson d).Plain 0 := .text _

theorem ofJson?_toJson (d : DiscountRate) : ofJson? (toJson d) = some d.unsignedZero := by
  show (ofJson? (toJson d.value)).bind of? = some d.unsignedZero
  rw [Decimal.ofJson?_toJson, Option.bind_some]
  exact dif_pos ⟨d.unsignedZero.nonneg, d.unsignedZero.le_one⟩

end DiscountRate

instance : LawfulJson Date 0 :=
  .ofText Date.toText Date.ofText? (fun _ => rfl) (fun _ => rfl) Date.ofText?_toText

instance : LawfulJson Timestamp 0 :=
  .ofText Timestamp.toText Timestamp.ofText? (fun _ => rfl) (fun _ => rfl) Timestamp.ofText?_toText

instance {e : Entity} : LawfulJson (Id e) 0 :=
  .ofText (·.uuid.toText) Id.ofText? (fun _ => rfl) (fun _ => rfl) Id.ofText?_toText

instance : NeverNull Date := .ofText Date.toText fun _ => rfl
instance : NeverNull Timestamp := .ofText Timestamp.toText fun _ => rfl
instance {e : Entity} : NeverNull (Id e) := .ofText (·.uuid.toText) fun _ => rfl

instance : LawfulJson ShipmentStatus 0 :=
  .ofText ShipmentStatus.name _ (fun _ => rfl) (fun _ => rfl) (by rintro ⟨⟩ <;> rfl)

instance : LawfulJson LineItemLocation 0 :=
  .ofText LineItemLocation.name _ (fun _ => rfl) (fun _ => rfl) (by rintro ⟨⟩ <;> rfl)

instance : LawfulJson LineItemStatus 0 :=
  .ofText LineItemStatus.name _ (fun _ => rfl) (fun _ => rfl) (by rintro ⟨⟩ <;> rfl)

instance : LawfulJson SitLocation 0 :=
  .ofText SitLocation.name _ (fun _ => rfl) (fun _ => rfl) (by rintro ⟨⟩ <;> rfl)

instance : LawfulJson SitStatus 0 :=
  .ofText SitStatus.name _ (fun _ => rfl) (fun _ => rfl) (by rintro ⟨⟩ <;> rfl)

instance : LawfulJson DiscountType 0 :=
  .ofText DiscountType.name _ (fun _ => rfl) (fun _ => rfl) (by rintro ⟨⟩ <;> rfl)

instance : LawfulJson MeasurementUnit 0 :=
  .ofText MeasurementUnit.name _ (fun _ => rfl) (fun _ => rfl) (by rintro ⟨⟩ <;> rfl)

end Haulage
