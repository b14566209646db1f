import Haulage.Proofs.ChargeBounds
import Haulage.Proofs.ItemOrigins
import Haulage.Proofs.Validation

/-! Line items without negative numbers. A rate is not negative and a discount leaves a part of
it, so an item without negative quantities and amounts is charged nothing negative. What a request
fills in is checked, and so such items are all that the operations on requests write. -/
namespace Haulage

namespace LineItem

/-- The item passes its own checks, and its price is not negative. -/
structure Sound (item : LineItem) : Prop where
  valid : item.validate.isEmpty
  price : ∀ amount ∈ item.amount, 0 ≤ amount.val

instance (item : LineItem) : Decidable item.Sound :=
  decidable_of_iff (item.validate.isEmpty ∧ ∀ amount ∈ item.amount, 0 ≤ amount.val)
    ⟨fun h => ⟨h.1, h.2⟩, fun h => ⟨h.valid, h.price⟩⟩

variable {item item' : LineItem} {unit : MeasurementUnit} {units : Decimal}

theorem any_negative_eq_false {given : Option Cents} :
    given.any (·.val < 0) = false ↔ ∀ amount ∈ given, 0 ≤ amount.val := by
  cases given <;> simp

theorem isEmpty_validate : item.validate.isEmpty ↔
    isBlankText item.tariffCode = false ∧ 0 ≤ item.quantity1.val ∧ 0 ≤ item.quantity2.val ∧
      (∀ amount ∈ item.estimateAmount, 0 ≤ amount.val) ∧
      ∀ amount ∈ item.actualAmount, 0 ≤ amount.val := by
  have none_ : FieldErrors.empty.isEmpty = true := rfl
  simp [validate, none_, any_negative_eq_false, and_assoc]

/-- Sound but for the quantities, whatever these are. -/
def SoundBeside (item : LineItem) : Prop :=
  Sound { item with quantity1 := .zero, quantity2 := .zero }

theorem sound_iff : item.Sound ↔
    item.SoundBeside ∧ 0 ≤ item.quantity1.val ∧ 0 ≤ item.quantity2.val := by
  constructor
  · rintro ⟨valid, price⟩
    obtain ⟨code, first, second, estimate, actual⟩ := isEmpty_validate.1 valid
    have none_ : 0 ≤ Quantity.zero.val := Int64.le_refl 0
    exact ⟨⟨isEmpty_validate.2 ⟨code, none_, none_, estimate, actual⟩, price⟩, first, second⟩
  · rintro ⟨⟨valid, price⟩, first, second⟩
    obtain ⟨code, -, -, estimate, actual⟩ := isEmpty_validate.1 valid
    exact ⟨isEmpty_validate.2 ⟨code, first, second, estimate, actual⟩, price⟩

/-- The checks do not look at the status. -/
theorem Sound.apply {action : LineItemAction} {now : Timestamp} (sound : item.Sound)
    (h : item.apply action now = .ok item') : item'.Sound := by
  obtain ⟨_, _, rfl⟩ := apply_eq_ok h
  exact ⟨sound.valid, sound.price⟩

theorem cast_toInt_nonneg {n : Int64} (nonneg : 0 ≤ n) : (0 : ℚ) ≤ n.toInt := by
  exact_mod_cast Int64.le_iff_toInt_le.1 nonneg

/-- Whatever unit a sound item is charged by, it has no negative number of them. -/
theorem toRat_nonneg_of_billed (sound : item.Sound) (billed : item.billed unit = .ok units) :
    0 ≤ units.toRat := by
  obtain ⟨-, first, second, estimate, actual⟩ := isEmpty_validate.1 sound.valid
  have first := cast_toInt_nonneg first
  have second := cast_toInt_nonneg second
  obtain ⟨cwt, divided, value, short⟩ := item.quantity1.exists_hundredth
  have heavy : 0 ≤ cwt.toRat := by
    rw [value]
    positivity
  cases unit
  case weight =>
    rw [LineItem.billed, divided] at billed
    obtain rfl := Except.ok.inj billed
    exact heavy
  case weightDistance | days =>
    rw [LineItem.billed, divided, ok_bind, times_eq_ok] at billed
    refine Decimal.toRat_nonneg_of_mul? heavy ?_ ?_ billed
    · rw [Quantity.toRat_toDecimal]
      positivity
    · have places : item.quantity2.toDecimal.scale = 4 := rfl
      omega
  case volume | each | distance =>
    obtain rfl := Except.ok.inj billed
    rw [Quantity.toRat_toDecimal]
    positivity
  case flat =>
    obtain rfl := Except.ok.inj billed
    simp [Decimal.toRat, Decimal.mantissa, Decimal.one]
  case actualCost =>
    obtain ⟨cents, given, quotient⟩ := bind_eq_ok.1 billed
    obtain ⟨b, divided, value, -⟩ := cents.exists_hundredth
    rw [divided] at quotient
    obtain rfl := Except.ok.inj quotient
    have known : 0 ≤ cents.val := by
      rcases Option.or_eq_some_iff.1 (billedAmount_eq_ok.1 given) with found | ⟨-, found⟩
      · exact actual cents found
      · exact estimate cents found
    have known := cast_toInt_nonneg known
    rw [value]
    positivity

end LineItem

theorem fee_nonneg_of_discountedCharge {rate : Millicents} {units : Decimal}
    {discount : DiscountRate} {charge : FeeAndRate} (nonneg : 0 ≤ rate.val)
    (some_ : 0 ≤ units.toRat) (short : units.scale ≤ 19)
    (charged : discountedCharge rate units discount = .ok charge) : 0 ≤ charge.fee.val := by
  obtain ⟨unitRate, _, discounted, above, -⟩ := exists_discounted discount nonneg
  have within := unitRate.scale_le
  rw [discountedCharge, times_eq_ok.2 discounted, ok_bind] at charged
  obtain ⟨total, multiplied, charged⟩ := bind_eq_ok.1 charged
  obtain ⟨fee, rounded, charged⟩ := bind_eq_ok.1 charged
  obtain ⟨_, -, charged⟩ := bind_eq_ok.1 charged
  obtain rfl := Except.ok.inj charged
  obtain ⟨amount, divided⟩ := exists_thousandth total
  have positive : 0 ≤ total.toRat :=
    Decimal.toRat_nonneg_of_mul? above some_ (by omega) (times_eq_ok.1 multiplied)
  have positive' : 0 ≤ amount.toRat := Decimal.toRat_nonneg_of_div? (e := 3) positive divided
  have nearest := (Cents.ofMillicents_eq_ok divided).1 rounded
  have least : 0 ≤ fee.val.toInt := nearest.le_of_ge (by simpa using positive')
  exact Int64.le_iff_toInt_le.2 least

namespace Calculator
variable {c : Calculator} {link : Except Error DiscountRate} {item new : LineItem}
  {shipment : Shipment} {discount : DiscountRate} {charge : FeeAndRate}

/-- A sound item is charged nothing negative. -/
theorem fee_nonneg (nonneg : c.RatesNonneg) (sound : item.Sound)
    (charged : c.lineItemCharge item shipment discount = .ok charge) : 0 ≤ charge.fee.val := by
  obtain ⟨tariff, -, charged⟩ := bind_eq_ok.1 charged
  obtain ⟨weight, -, charged⟩ := bind_eq_ok.1 charged
  obtain ⟨date, -, charged⟩ := bind_eq_ok.1 charged
  obtain ⟨⟨units, miles⟩, counted, charged⟩ := bind_eq_ok.1 charged
  obtain ⟨rate, found, charged⟩ := bind_eq_ok.1 charged
  have billed := (LineItem.billingUnits_eq_ok.1 counted).1
  have short := LineItem.scale_le_of_billed billed
  exact fee_nonneg_of_discountedCharge (nonneg _ _ _ _ _ found)
    (LineItem.toRat_nonneg_of_billed sound billed) (by omega) charged

/-- Looking at an item for pricing makes no negative number. -/
theorem Repriced.sound (nonneg : c.RatesNonneg) (sound : item.Sound)
    (repriced : c.Repriced link shipment item new) : new.Sound := by
  induction repriced with
  | priced _ _ _ charged =>
    refine ⟨sound.valid, fun amount given => ?_⟩
    obtain rfl := Option.some.inj given
    exact fee_nonneg nonneg sound charged
  | cleared => exact ⟨sound.valid, nofun⟩
  | early => exact sound
  | moved _ h ih => exact ih.apply h

theorem sound_settledItem (nonneg : c.RatesNonneg) (sound : item.Sound) :
    (c.settledItem shipment discount item).Sound := by
  cases invoiced : item.isInvoiced with
  | true => rwa [settledItem_of_isInvoiced invoiced]
  | false => exact (repriced_settledItem invoiced).sound nonneg sound

end Calculator

/-- A form that is filled in has passed the checks of the item. -/
theorem RequestForm.sound_of_applyTo {form : RequestForm} {item item' : LineItem} {s s' : Store}
    (h : form.applyTo item s = .ok (item', s')) (price : ∀ amount ∈ item.amount, 0 ≤ amount.val) :
    item'.Sound := by
  obtain ⟨_, _, _, _, _, _, _, _, rfl⟩ := applyTo_parts h
  obtain ⟨_, checked, -⟩ := bind_eq_ok.1 h
  have empty := FieldErrors.check_eq_ok.1 checked
  rw [FieldErrors.isEmpty_append, Bool.and_eq_true] at empty
  exact ⟨empty.2, price⟩

theorem Store.EachItem.beside {P : LineItem → Prop} {s side : Store} (each : s.EachItem P)
    (beside : s.Beside side) : side.EachItem P := by
  intro key item stored
  rw [beside.lineItems] at stored
  exact each stored

theorem Store.EachItem.saveLineItem {P : LineItem → Prop} {s side : Store} {item : LineItem}
    (each : s.EachItem P) (beside : s.Beside side) (holds : P item) :
    (side.saveLineItem item).EachItem P := by
  intro key item' stored
  rcases saveLineItem_cases beside stored with stood | ⟨-, rfl⟩
  · exact each stood
  · exact holds

namespace Services
variable {v : Services} {s s' : Store} {op : Operation}

/-- Requests and changes to stays in storage write sound items only. -/
theorem eachSound_of_request (nonneg : v.calculator.RatesNonneg) (request : ¬ op.Recalculates)
    (each : s.EachItem LineItem.Sound) (h : v.run s op = .ok s') :
    s'.EachItem LineItem.Sound := by
  cases op with
  | createRequest id now shipmentId form =>
    obtain ⟨⟨item, _⟩, created, rfl⟩ := map_eq_ok.1 h
    obtain ⟨_, _, side, _, _, applied, rfl⟩ := Calculator.createRequest_iff.1 created
    exact each.saveLineItem (RequestForm.applyTo_eq_ok applied).2
      (RequestForm.sound_of_applyTo applied nofun)
  | updateLineItem now id form =>
    obtain ⟨⟨item, _⟩, updated, rfl⟩ := map_eq_ok.1 h
    obtain ⟨old, _, _, filled, side, stored, _, mutable_, _, _, applied, repriced, rfl⟩ :=
      Calculator.updateLineItem_iff.1 updated
    obtain ⟨refilled, beside⟩ := RequestForm.applyTo_eq_ok applied
    have before : old.isInvoiced = false := LineItem.ensureMutable_eq_ok mutable_
    have opened : filled.isInvoiced = false := refilled.isInvoiced.trans before
    have filledSound := RequestForm.sound_of_applyTo applied (each stored).price
    exact each.saveLineItem beside
      ((Calculator.repriced_reprice opened repriced).sound nonneg filledSound)
  | approveLineItem now id =>
    obtain ⟨⟨item, _⟩, done, rfl⟩ := map_eq_ok.1 h
    obtain ⟨old, _, approved, stored, _, moved, _, priced, rfl⟩ :=
      Calculator.approveLineItem_eq_ok done
    have approvedSound := (each stored).apply moved
    refine each.saveLineItem (.refl s) ?_
    rcases priced with rfl | repriced
    · exact approvedSound
    · exact repriced.sound nonneg approvedSound
  | deleteLineItem id =>
    obtain ⟨⟨gone, _⟩, deleted, rfl⟩ := map_eq_ok.1 h
    obtain ⟨_, _, beside⟩ := Calculator.deleteLineItem_eq_ok deleted
    intro key item stored
    rw [beside.lineItems, SortedMap.get?_erase] at stored
    split at stored
    · contradiction
    · exact each stored
  | sit operation =>
    obtain ⟨⟨sit, _⟩, changed, rfl⟩ := map_eq_ok.1 h
    exact each.beside (SitOperation.beside changed)
  | recalculate | deliverAndPrice => exact absurd trivial request

end Services
end Haulage
