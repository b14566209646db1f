import Haulage.Proofs.Footprint
import Haulage.Proofs.ItemOrigins

/-! Who owns measurements. A record of measurements goes with one slot of one line item, and
every operation keeps it so but for one thing: the form of a request brings the ids of its
measurements with it, and an id that another slot has already is taken as it is. -/
namespace Haulage

namespace Store
variable {s s' side : Store} {id : LineItemId} {slots : List DimensionsId}

/-- No record of measurements is referred to from two slots, of one line item or of two. -/
structure DimensionsApart (s : Store) : Prop where
  within : ∀ ⦃key item⦄, s.lineItems.get? key = some item → item.ownedDimensions.Nodup
  between : ∀ ⦃key key' item item' d⦄, s.lineItems.get? key = some item →
    s.lineItems.get? key' = some item' → d ∈ item.ownedDimensions → d ∈ item'.ownedDimensions →
    key = key'

/-- The line item of this id can have these measurements to itself. -/
def AdmitsDimensions (s : Store) (id : LineItemId) (slots : List DimensionsId) : Prop :=
  slots.Nodup ∧ ∀ ⦃key item⦄, s.lineItems.get? key = some item → key ≠ id →
    ∀ d ∈ item.ownedDimensions, d ∉ slots

/-- The line items under other ids have the measurements that they had. -/
def KeepsSizesBut (s : Store) (id : Option LineItemId) (s' : Store) : Prop :=
  ∀ ⦃key item⦄, s.lineItems.get? key = some item → id ≠ some key →
    ∀ d ∈ item.ownedDimensions, s'.dimensions.get? d = s.dimensions.get? d

theorem dimensionsApart_of_forall
    (within : ∀ e ∈ s.lineItems.entries, e.2.ownedDimensions.Nodup)
    (between : ∀ e ∈ s.lineItems.entries, ∀ e' ∈ s.lineItems.entries, ∀ d ∈ e.2.ownedDimensions,
      d ∈ e'.2.ownedDimensions → e.1 = e'.1) : s.DimensionsApart where
  within _ _ stored := within _ (SortedMap.get?_eq_some_iff.1 stored)
  between _ _ _ _ _ stored stored' := between _ (SortedMap.get?_eq_some_iff.1 stored) _
    (SortedMap.get?_eq_some_iff.1 stored') _

theorem DimensionsApart.mono (apart : s.DimensionsApart)
    (items : ∀ ⦃key item⦄, s'.lineItems.get? key = some item → item.ownedDimensions = [] ∨
      ∃ old, s.lineItems.get? key = some old ∧ item.ownedDimensions = old.ownedDimensions) :
    s'.DimensionsApart where
  within key item stored := by
    rcases items stored with bare | ⟨old, before, same⟩
    · rw [bare]
      exact List.nodup_nil
    · rw [same]
      exact apart.within before
  between key key' item item' d stored stored' owned owned' := by
    rcases items stored with bare | ⟨old, before, same⟩
    · rw [bare] at owned
      contradiction
    rcases items stored' with bare | ⟨old', before', same'⟩
    · rw [bare] at owned'
      contradiction
    rw [same] at owned
    rw [same'] at owned'
    exact apart.between before before' owned owned'

theorem DimensionsApart.saveLineItem_iff (apart : s.DimensionsApart)
    (beside : side.lineItems = s.lineItems) {new : LineItem} :
    (side.saveLineItem new).DimensionsApart ↔ s.AdmitsDimensions new.id new.ownedDimensions := by
  have saved : (side.saveLineItem new).lineItems.get? new.id = some new := get?_saveLineItem rfl
  have others {key : LineItemId} (other : key ≠ new.id) :
      (side.saveLineItem new).lineItems.get? key = s.lineItems.get? key := by
    rw [saveLineItem, SortedMap.get?_insert, if_neg other, beside]
  constructor
  · intro after
    refine ⟨after.within saved, fun key item stored other d owned taken => other ?_⟩
    exact after.between ((others other).trans stored) saved owned taken
  · rintro ⟨nodup, free⟩
    constructor
    · intro key item stored
      by_cases here : key = new.id
      · subst here
        obtain rfl := Option.some.inj (saved.symm.trans stored)
        exact nodup
      · exact apart.within ((others here).symm.trans stored)
    · intro key key' item item' d stored stored' owned owned'
      -- Only a pair with the saved item in it is new.
      by_cases here : key = new.id <;> by_cases here' : key' = new.id
      · exact here.trans here'.symm
      · subst here
        obtain rfl := Option.some.inj (saved.symm.trans stored)
        exact absurd owned (free ((others here').symm.trans stored') here' d owned')
      · subst here'
        obtain rfl := Option.some.inj (saved.symm.trans stored')
        exact absurd owned' (free ((others here).symm.trans stored) here d owned)
      · exact apart.between ((others here).symm.trans stored) ((others here').symm.trans stored')
          owned owned'

end Store

/-- The ids under which the form's measurements are stored: those of the slots where there are
any, else the form's own. -/
def RequestForm.slots (form : RequestForm) (itemId crateId : Option DimensionsId) :
    List DimensionsId :=
  (form.itemDimensions.map fun d => itemId.getD d.id).toList ++
    (form.crateDimensions.map fun d => crateId.getD d.id).toList

namespace RequestForm
variable {form : RequestForm} {item item' : LineItem} {s s' : Store}

theorem Replaces.id_eq {existing id : Option DimensionsId} {replacement : Option Dimensions}
    (replaces : Replaces s existing replacement id s') :
    id = replacement.map fun d => existing.getD d.id := by
  cases replaces <;> rfl

theorem applyTo_ownedDimensions (h : form.applyTo item s = .ok (item', s')) :
    item'.ownedDimensions = form.slots item.itemDimensionsId item.crateDimensionsId := by
  obtain ⟨_, _, _, _, _, itemSizes, crateSizes, _, rfl⟩ := applyTo_parts h
  rw [slots, ← itemSizes.id_eq, ← crateSizes.id_eq]
  rfl

theorem applyTo_dimensions (h : form.applyTo item s = .ok (item', s')) {d : DimensionsId}
    (unowned : d ∉ item.ownedDimensions) (unowned' : d ∉ item'.ownedDimensions) :
    s'.dimensions.get? d = s.dimensions.get? d := by
  have changes : s.ChangesOnly
      { dimensions := {d | d ∈ item.ownedDimensions ∨ d ∈ item'.ownedDimensions}
        addresses := Set.univ } s' :=
    changesOnly_applyTo ⟨fun _ => .inl, fun _ _ => trivial⟩ ⟨fun _ => .inr, fun _ _ => trivial⟩ h
  exact changes.dimensions d fun owned => owned.elim unowned unowned'

/-- A filled item that is saved leaves the measurements of others apart from its own exactly if
the store admits what the form puts in its slots. -/
theorem dimensionsApart_saveApplied_iff {side : Store} {new : LineItem} {id : LineItemId}
    (apart : s.DimensionsApart) (h : form.applyTo item s = .ok (item', side))
    (sameId : new.id = id) (same : new.ownedDimensions = item'.ownedDimensions) :
    (side.saveLineItem new).DimensionsApart ↔
      s.AdmitsDimensions id (form.slots item.itemDimensionsId item.crateDimensionsId) := by
  rw [apart.saveLineItem_iff (applyTo_eq_ok h).2.lineItems, sameId, same,
    applyTo_ownedDimensions h]

theorem keepsSizesBut_applyTo {id : LineItemId} (h : form.applyTo item s = .ok (item', s'))
    (admitted : s.AdmitsDimensions id (form.slots item.itemDimensionsId item.crateDimensionsId))
    (own : ∀ ⦃key other⦄, s.lineItems.get? key = some other → key ≠ id →
      ∀ d ∈ other.ownedDimensions, d ∉ item.ownedDimensions) :
    s.KeepsSizesBut (some id) s' := by
  intro key other stored elsewhere d owned
  have apartKeys : key ≠ id := fun same => elsewhere (congrArg some same.symm)
  refine applyTo_dimensions h (own stored apartKeys d owned) ?_
  rw [applyTo_ownedDimensions h]
  exact admitted.2 stored apartKeys d owned

end RequestForm

namespace Operation

/-- The line item that the operation is about, where it is about one. -/
def lineItem? : Operation → Option LineItemId
  | createRequest id .. | updateLineItem _ id _ | approveLineItem _ id | deleteLineItem id =>
    some id
  | sit _ | recalculate .. | deliverAndPrice .. => none

def form? : Operation → Option RequestForm
  | createRequest _ _ _ form | updateLineItem _ _ form => some form
  | approveLineItem .. | deleteLineItem .. | sit _ | recalculate .. | deliverAndPrice .. => none

/-- A form that the operation brings has measurements for no slot but the item's own. -/
def KeepsApart (s : Store) : Operation → Prop
  | createRequest id _ _ form => s.AdmitsDimensions id (form.slots none none)
  | updateLineItem _ id form => ∀ old, s.lineItems.get? id = some old →
    s.AdmitsDimensions id (form.slots old.itemDimensionsId old.crateDimensionsId)
  | approveLineItem .. | deleteLineItem .. | sit _ | recalculate .. | deliverAndPrice .. => True

end Operation

theorem Store.saveSits_dimensions (s : Store) (sits : List Sit) :
    (sits.foldl saveSit s).dimensions = s.dimensions := by
  induction sits generalizing s with
  | nil => rfl
  | cons sit rest ih => exact ih (s.saveSit sit)

theorem Recalculator.run_dimensions {r : Recalculator} {ids : IdSupply} {now : Timestamp}
    {shipment : Shipment} {report : RecalculationReport} {s s' : Store}
    (h : r.run ids now shipment s = .ok (report, s')) : s'.dimensions = s.dimensions := by
  obtain ⟨_, _, _, _, _, _, _, _, _, _, _, _, resolved, settled⟩ := run_eq_ok.1 h
  obtain rfl : _ = s' := congrArg Prod.snd settled
  rw [settle_store]
  rcases (resolveDiscount_frame resolved).2 with rfl | ⟨_, inserted⟩
  · rfl
  · rw [Store.insertGrouping_eq_ok inserted]

namespace Services
variable {v : Services} {s s' : Store} {op : Operation} {before : Option LineItem}
  {item : LineItem}

theorem Writes.ownedDimensions (writes : v.Writes s op before item) (formless : op.form? = none) :
    item.ownedDimensions = [] ∨ ∃ old ∈ before, item.ownedDimensions = old.ownedDimensions := by
  cases writes with
  | request => contradiction
  | update => contradiction
  | approve _ moved =>
    obtain ⟨_, _, rfl⟩ := LineItem.apply_eq_ok moved
    exact .inr ⟨_, rfl, rfl⟩
  | price _ _ changed _ => cases changed <;> exact .inr ⟨_, rfl, rfl⟩
  | make _ made _ =>
    cases made
    exact .inl rfl

theorem dimensionsApart_of_formless (filed : s.Filed) (apart : s.DimensionsApart)
    (formless : op.form? = none) (h : v.run s op = .ok s') : s'.DimensionsApart := by
  refine apart.mono fun key item stored => ?_
  rcases origin_of_run h stored with stood | ⟨rfl, before, writes⟩
  · exact .inr ⟨item, stood, rfl⟩
  · refine (writes.ownedDimensions formless).imp_right fun ⟨old, inPlace, same⟩ => ?_
    obtain rfl : before = some old := inPlace
    exact ⟨old, writes.stored filed, same⟩

end Services

namespace Calculator
variable {c : Calculator} {now : Timestamp} {id : LineItemId} {form : RequestForm}
  {s s' : Store} {new : LineItem}

theorem dimensionsApart_createRequest_iff {shipmentId : ShipmentId} (apart : s.DimensionsApart)
    (h : c.createRequest id now shipmentId form s = .ok (new, s')) :
    s'.DimensionsApart ↔ Operation.KeepsApart s (.createRequest id now shipmentId form) := by
  obtain ⟨_, _, side, _, _, applied, rfl⟩ := createRequest_iff.1 h
  have sameId : new.id = id := (RequestForm.applyTo_eq_ok applied).1.id
  exact RequestForm.dimensionsApart_saveApplied_iff apart applied sameId rfl

theorem keepsSizesBut_createRequest {shipmentId : ShipmentId}
    (admitted : Operation.KeepsApart s (.createRequest id now shipmentId form))
    (h : c.createRequest id now shipmentId form s = .ok (new, s')) :
    s.KeepsSizesBut (some id) s' := by
  obtain ⟨_, _, side, _, _, applied, rfl⟩ := createRequest_iff.1 h
  have keeps : s.KeepsSizesBut (some id) side := RequestForm.keepsSizesBut_applyTo applied admitted
    fun _ _ _ _ _ _ => List.not_mem_nil
  exact keeps

theorem dimensionsApart_updateLineItem_iff (filed : s.Filed) (apart : s.DimensionsApart)
    (h : c.updateLineItem now id form s = .ok (new, s')) :
    s'.DimensionsApart ↔ Operation.KeepsApart s (.updateLineItem now id form) := by
  obtain ⟨old, _, _, filled, side, stored, _, _, _, _, applied, repriced, rfl⟩ :=
    updateLineItem_iff.1 h
  obtain ⟨_, _, _, _, same⟩ := reprice_eq repriced
  have kept : new.id = filled.id ∧ new.ownedDimensions = filled.ownedDimensions := by
    rw [same]
    exact ⟨rfl, rfl⟩
  have sameId : filled.id = old.id := (RequestForm.applyTo_eq_ok applied).1.id
  refine (RequestForm.dimensionsApart_saveApplied_iff apart applied
    (kept.1.trans (sameId.trans (filed.lineItems stored))) kept.2).trans ?_
  constructor
  · intro admitted old' stored'
    obtain rfl := Option.some.inj (stored.symm.trans stored')
    exact admitted
  · intro admitted
    exact admitted old stored

theorem keepsSizesBut_updateLineItem (apart : s.DimensionsApart)
    (admitted : Operation.KeepsApart s (.updateLineItem now id form))
    (h : c.updateLineItem now id form s = .ok (new, s')) : s.KeepsSizesBut (some id) s' := by
  obtain ⟨old, _, _, filled, side, found, _, _, _, _, applied, _, rfl⟩ := updateLineItem_iff.1 h
  have own ⦃key other⦄ (stored : s.lineItems.get? key = some other) (elsewhere : key ≠ id)
      (d : DimensionsId) (owned : d ∈ other.ownedDimensions) : d ∉ old.ownedDimensions :=
    fun owned' => elsewhere (apart.between stored found owned owned')
  have keeps : s.KeepsSizesBut (some id) side :=
    RequestForm.keepsSizesBut_applyTo applied (admitted old found) own
  exact keeps

theorem keepsSizesBut_deleteLineItem (filed : s.Filed) (apart : s.DimensionsApart)
    (h : c.deleteLineItem id s = .ok (new, s')) : s.KeepsSizesBut (some id) s' := by
  have changes : s.ChangesOnly
      { lineItems := {id}, dimensions := s.dimensionsOf id, addresses := s.addressOf id } s' :=
    changesOnly_deleteLineItem filed rfl
      (fun old found => ⟨fun _ owned => ⟨old, found, owned⟩, fun _ owned => ⟨old, found, owned⟩⟩) h
  intro key item stored other d owned
  refine changes.dimensions d fun ⟨old, found, owned'⟩ => other ?_
  exact congrArg some (apart.between found stored owned' owned)

end Calculator

namespace Services
variable {v : Services} {s s' : Store} {op : Operation}

theorem dimensionsApart_of_run_iff (filed : s.Filed) (apart : s.DimensionsApart)
    (h : v.run s op = .ok s') : s'.DimensionsApart ↔ op.KeepsApart s := by
  cases op with
  | createRequest id now shipmentId form =>
    obtain ⟨⟨_, _⟩, created, rfl⟩ := map_eq_ok.1 h
    exact Calculator.dimensionsApart_createRequest_iff apart created
  | updateLineItem now id form =>
    obtain ⟨⟨_, _⟩, updated, rfl⟩ := map_eq_ok.1 h
    exact Calculator.dimensionsApart_updateLineItem_iff filed apart updated
  | approveLineItem | deleteLineItem | sit | recalculate | deliverAndPrice =>
    exact iff_of_true (dimensionsApart_of_formless filed apart rfl h) trivial

theorem keepsSizesBut_of_run (filed : s.Filed) (apart : s.DimensionsApart)
    (admitted : op.KeepsApart s) (h : v.run s op = .ok s') :
    s.KeepsSizesBut op.lineItem? s' := by
  cases op with
  | createRequest id now shipmentId form =>
    obtain ⟨⟨_, _⟩, created, rfl⟩ := map_eq_ok.1 h
    exact Calculator.keepsSizesBut_createRequest admitted created
  | updateLineItem now id form =>
    obtain ⟨⟨_, _⟩, updated, rfl⟩ := map_eq_ok.1 h
    exact Calculator.keepsSizesBut_updateLineItem apart admitted updated
  | approveLineItem now id =>
    obtain ⟨⟨_, _⟩, approved, rfl⟩ := map_eq_ok.1 h
    obtain ⟨_, _, _, _, _, _, _, rfl⟩ := Calculator.approveLineItem_saves approved
    exact fun _ _ _ _ _ _ => rfl
  | deleteLineItem id =>
    obtain ⟨⟨_, _⟩, deleted, rfl⟩ := map_eq_ok.1 h
    exact Calculator.keepsSizesBut_deleteLineItem filed apart deleted
  | sit operation =>
    obtain ⟨⟨_, _⟩, changed, rfl⟩ := map_eq_ok.1 h
    have changes := (SitOperation.changesOnly filed changed).dimensions
    intro key item stored _ d _
    cases operation <;> exact changes d fun nothing => nothing
  | recalculate ids now id =>
    obtain ⟨⟨_, _⟩, recalculated, rfl⟩ := map_eq_ok.1 h
    obtain ⟨_, _, ran⟩ := Recalculator.recalculate_eq_ok.1 recalculated
    exact fun _ _ _ _ _ _ => by rw [Recalculator.run_dimensions ran]
  | deliverAndPrice ids now id date =>
    obtain ⟨⟨_, _⟩, delivered, rfl⟩ := map_eq_ok.1 h
    obtain ⟨_, _, _, _, _, _, ran⟩ := Recalculator.deliverAndPrice_iff.1 delivered
    exact fun _ _ _ _ _ _ => by rw [Recalculator.run_dimensions ran, Store.saveSits_dimensions]

/-- An operation is no form that succeeds with measurements of another slot. -/
def KeepsApart (v : Services) (s : Store) (op : Operation) : Prop :=
  ∀ s', v.run s op = .ok s' → op.KeepsApart s

/-- Measurements stay with one slot each exactly if no form that succeeds brings an id of
another slot; and as long as they do, an operation changes the measurements of no line item
but the one that it is about. -/
theorem dimensionsApart_commit_iff (filed : s.Filed) (apart : s.DimensionsApart)
    (op : Operation) :
    ((v.commit s op).DimensionsApart ↔ v.KeepsApart s op) ∧
      (v.KeepsApart s op → s.KeepsSizesBut op.lineItem? (v.commit s op)) := by
  refine ⟨commit_iff_of_run apart fun _ => dimensionsApart_of_run_iff filed apart, fun keeps => ?_⟩
  have unchanged : s.KeepsSizesBut op.lineItem? s := fun _ _ _ _ _ _ => rfl
  exact commit_of_run unchanged fun s' h => keepsSizesBut_of_run filed apart (keeps s' h) h

/-- Crating is requested for two things, each with measurements of its own. -/
theorem dimensionsApart_commit_iff_sample :
    let sizes (n : Nat) : Dimensions := ⟨Sample.id n, ⟨5⟩, ⟨6⟩, ⟨7⟩⟩
    let start := (Sample.linked.saveDimensions (sizes 1)).saveLineItem
      { Sample.crating with itemDimensionsId := some (Sample.id 1) }
    let op : Operation := .createRequest (Sample.id 4) Sample.time (Sample.id 1)
      { tariffCode := "105B", location := .origin
        itemDimensions := some (sizes 2), crateDimensions := some (sizes 3) }
    start.Filed ∧ start.DimensionsApart ∧
      ((Sample.services.commit start op).lineItems.get? (Sample.id 4)).map (·.ownedDimensions) =
        some [Sample.id 2, Sample.id 3] ∧
      (Sample.services.commit start op).DimensionsApart ∧
      start.KeepsSizesBut (some (Sample.id 4)) (Sample.services.commit start op) := by
  intro sizes start op
  have filed : start.Filed :=
    ((Sample.filed_store.saveShipment _).saveDimensions _).saveLineItem _
  have apart : start.DimensionsApart :=
    Store.dimensionsApart_of_forall (by decide +kernel) (by decide +kernel)
  have free : ∀ e ∈ start.lineItems.entries, e.1 ≠ Sample.id 4 → ∀ d ∈ e.2.ownedDimensions,
      d ∉ [Sample.id 2, Sample.id 3] := by decide +kernel
  have keeps : Sample.services.KeepsApart start op := fun _ _ =>
    ⟨by decide +kernel, fun _ _ stored => free _ (SortedMap.get?_eq_some_iff.1 stored)⟩
  obtain ⟨apart', sizes'⟩ := dimensionsApart_commit_iff (v := Sample.services) filed apart op
  exact ⟨filed, apart, by decide +kernel, apart'.2 keeps, sizes' keeps⟩

/-- A second request brings measurements under the id of those that the first one has. They are
taken: the first request has another size, and one record goes with both. -/
theorem taken_dimensions_sample :
    let sizes : Dimensions := ⟨Sample.id 1, ⟨5⟩, ⟨6⟩, ⟨7⟩⟩
    let start := (Sample.linked.saveDimensions sizes).saveLineItem
      { Sample.crating with itemDimensionsId := some (Sample.id 1) }
    let op : Operation := .createRequest (Sample.id 4) Sample.time (Sample.id 1)
      { tariffCode := "105B", location := .origin
        itemDimensions := some { sizes with length := ⟨50⟩ } }
    start.Filed ∧ start.DimensionsApart ∧ op.IdsFresh start ∧
      (start.dimensions.get? (Sample.id 1)).map (·.length) = some ⟨5⟩ ∧
      ((Sample.services.commit start op).dimensions.get? (Sample.id 1)).map (·.length) =
        some ⟨50⟩ ∧
      ¬ (Sample.services.commit start op).DimensionsApart := by
  intro sizes start op
  have filed : start.Filed :=
    ((Sample.filed_store.saveShipment _).saveDimensions _).saveLineItem _
  have apart : start.DimensionsApart :=
    Store.dimensionsApart_of_forall (by decide +kernel) (by decide +kernel)
  have unused : start.lineItems.get? (Sample.id 4) = none := by decide +kernel
  have first : ((Sample.services.commit start op).lineItems.get? (Sample.id 3)).map
      (·.ownedDimensions) = some [Sample.id 1] := by decide +kernel
  have second : ((Sample.services.commit start op).lineItems.get? (Sample.id 4)).map
      (·.ownedDimensions) = some [Sample.id 1] := by decide +kernel
  refine ⟨filed, apart, unused, by decide +kernel, by decide +kernel, fun apart' => ?_⟩
  obtain ⟨item, stored, owned⟩ := Option.map_eq_some_iff.1 first
  obtain ⟨other, stored', owned'⟩ := Option.map_eq_some_iff.1 second
  have mem : Sample.id 1 ∈ item.ownedDimensions := owned ▸ List.mem_cons_self
  have mem' : Sample.id 1 ∈ other.ownedDimensions := owned' ▸ List.mem_cons_self
  exact absurd (apart'.between stored stored' mem mem') (by decide)

end Services
end Haulage
