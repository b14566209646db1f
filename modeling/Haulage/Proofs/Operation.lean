import Haulage.Proofs.Sample
import Haulage.Proofs.Settlement
import Haulage.Proofs.SitRecords
import Haulage.Proofs.Supply

/-! The operations that the services offer on a store, in one type. An operation that
fails leaves the store as it was; `Step` says what one that succeeds does to it. -/
namespace Haulage

/-- What is done to SIT records. -/
inductive SitOperation where
  | save (sit : Sit) (address : Address)
  | remove (id : SitId)
  | approve (id : SitId) (start : Date) (notes : Option String)
  | deny (id : SitId) (notes : Option String)
  | placeIntoSit (id : SitId) (start : Date)
  | deliver (id : SitId) (date : Date)
  | release (id : SitId) (date : Date)

/-- What is done to line items, SIT records and whole shipments, with all arguments; new
ids and the time are arguments too. -/
inductive Operation where
  | createRequest (id : LineItemId) (now : Timestamp) (shipmentId : ShipmentId) (form : RequestForm)
  | updateLineItem (now : Timestamp) (id : LineItemId) (form : RequestForm)
  | approveLineItem (now : Timestamp) (id : LineItemId)
  | deleteLineItem (id : LineItemId)
  | sit (operation : SitOperation)
  | recalculate (ids : IdSupply) (now : Timestamp) (id : ShipmentId)
  | deliverAndPrice (ids : IdSupply) (now : Timestamp) (id : ShipmentId) (date : Date)

/-- The services that do it: the prices of requests may come from another rate table than
those of recalculations. -/
structure Services where
  calculator : Calculator
  recalculator : Recalculator

/-- The new ids that the operation is given are new to the store. -/
def Operation.IdsFresh (s : Store) : Operation → Prop
  | createRequest id _ _ _ => s.lineItems.get? id = none
  | recalculate ids _ id | deliverAndPrice ids _ id _ => ids.FreshFor s id
  | updateLineItem .. | approveLineItem .. | deleteLineItem .. | sit _ => True

/-- Services that price by the sample rates. -/
def Sample.services : Services where
  calculator := { rates := Sample.rates }
  recalculator := Sample.recalculator

def SitOperation.run (s : Store) : SitOperation → Except Error (Sit × Store)
  | save sit address => s.saveSitWithAddress sit address
  | remove id => s.removeSit id
  | approve id start notes => s.approveSit id start notes
  | deny id notes => s.denySit id notes
  | placeIntoSit id start => s.placeIntoSit id start
  | deliver id date => s.deliverSit id date
  | release id date => s.releaseSit id date

namespace Services

/-- The store after an operation that succeeds. -/
def run (v : Services) (s : Store) : Operation → Except Error Store
  | .createRequest id now shipmentId form =>
    Prod.snd <$> v.calculator.createRequest id now shipmentId form s
  | .updateLineItem now id form => Prod.snd <$> v.calculator.updateLineItem now id form s
  | .approveLineItem now id => Prod.snd <$> v.calculator.approveLineItem now id s
  | .deleteLineItem id => Prod.snd <$> v.calculator.deleteLineItem id s
  | .sit operation => Prod.snd <$> operation.run s
  | .recalculate ids now id => Prod.snd <$> v.recalculator.recalculate ids now id s
  | .deliverAndPrice ids now id date =>
    Prod.snd <$> v.recalculator.deliverAndPrice ids now id date s

/-- The committed store: that before the operation if it fails. -/
def commit (v : Services) (s : Store) (op : Operation) : Store :=
  match v.run s op with
  | .ok s' => s'
  | .error _ => s

/-- The store after operations one after the other, each by services of its own. -/
def commitAll (s : Store) (ops : List (Services × Operation)) : Store :=
  ops.foldl (fun s op => op.1.commit s op.2) s

/-- Each of the operations is `Q` at the store that it finds. -/
def Along (Q : Services → Store → Operation → Prop) (s : Store) : List (Services × Operation) → Prop
  | [] => True
  | op :: rest => Q op.1 s op.2 ∧ Along Q (op.1.commit s op.2) rest

end Services

namespace Store
variable {s s' : Store} {sit : Sit}

theorem beside_changeSit {id : SitId} {action : Sit → Except Error Sit}
    (h : s.changeSit id action = .ok (sit, s')) : s.Beside s' := by
  obtain ⟨_, _, _, _, rfl⟩ := changeSit_eq_ok.1 h
  exact beside_saveSit _

theorem beside_removeSit {id : SitId} (h : s.removeSit id = .ok (sit, s')) : s.Beside s' := by
  obtain ⟨_, _, rfl⟩ := removeSit_eq_ok h
  exact beside_eraseSit _

theorem beside_saveSitWithAddress {new : Sit} {address : Address}
    (h : s.saveSitWithAddress new address = .ok (sit, s')) : s.Beside s' := by
  obtain ⟨_, _, _, rfl⟩ := saveSitWithAddress_eq_ok h
  exact (beside_saveAddress address).trans (beside_saveSit sit)

end Store

theorem SitOperation.beside {operation : SitOperation} {s s' : Store} {sit : Sit}
    (h : operation.run s = .ok (sit, s')) : s.Beside s' := by
  cases operation with
  | save sit address => exact Store.beside_saveSitWithAddress h
  | remove id => exact Store.beside_removeSit h
  | approve id start notes => exact Store.beside_changeSit h
  | deny id notes => exact Store.beside_changeSit h
  | placeIntoSit id start => exact Store.beside_changeSit h
  | deliver id date => exact Store.beside_changeSit h
  | release id date => exact Store.beside_changeSit h

theorem Shipment.deliver_eq_ok {old shipment : Shipment} {date : Date}
    (h : old.deliver date = .ok shipment) :
    old.status = .inTransit ∧
      shipment = { old with status := .delivered, actualDeliveryDate := some date } := by
  unfold deliver at h
  split at h
  · next moving => exact ⟨moving, (Except.ok.inj h).symm⟩
  · contradiction

namespace Recalculator
variable {r : Recalculator} {ids : IdSupply} {now : Timestamp} {id : ShipmentId} {date : Date}
  {s s' : Store} {report : RecalculationReport}

/-- A delivery changes SIT records and then recalculates the delivered shipment. -/
theorem deliverAndPrice_iff :
    r.deliverAndPrice ids now id date s = .ok (report, s') ↔
      ∃ old shipment delivered, s.shipments.get? id = some old ∧ old.deliver date = .ok shipment ∧
        deliverSits date (s.sitsOf id) = .ok delivered ∧
        r.run ids now shipment (delivered.foldl Store.saveSit s) = .ok (report, s') := by
  simp only [deliverAndPrice, bind_eq_ok, Store.loadShipment_eq_ok]
  constructor
  · rintro ⟨old, stored, shipment, left, delivered, sits, ran⟩
    exact ⟨old, shipment, delivered, stored, left, sits, ran⟩
  · rintro ⟨old, shipment, delivered, stored, left, sits, ran⟩
    exact ⟨old, stored, shipment, left, delivered, sits, ran⟩

/-- The delivered records take the place of others of the shipment. -/
theorem sameStays_saveDelivered {delivered : List Sit} (filed : s.Filed)
    (h : deliverSits date (s.sitsOf id) = .ok delivered) :
    s.SameStays (delivered.foldl Store.saveSit s) := by
  refine Store.sameStays_saveSits fun sit mem => ?_
  obtain ⟨old, memOld, _, _, moves, _⟩ := deliverSits_eq_ok h mem
  rw [moves.continues.id, (filed.mem_sitsOf.1 memOld).1, moves.continues.shipmentId,
    Option.map_some]

theorem beside_saveDelivered (delivered : List Sit) :
    s.Beside (delivered.foldl Store.saveSit s) :=
  Store.beside_foldl fun _ sit => Store.beside_saveSit sit

theorem idDemand_saveDelivered {delivered : List Sit} (filed : s.Filed)
    (h : deliverSits date (s.sitsOf id) = .ok delivered) (other : ShipmentId) :
    (delivered.foldl Store.saveSit s).idDemand other = s.idDemand other :=
  filed.idDemand_congr ((beside_saveDelivered delivered).filed filed)
    (sameStays_saveDelivered filed h)

theorem deliverAndPrice_eq_ok (h : r.deliverAndPrice ids now id date s = .ok (report, s')) :
    ∃ old shipment side, s.shipments.get? id = some old ∧ old.deliver date = .ok shipment ∧
      s.Beside side ∧ (s.Filed → side.idDemand id = s.idDemand id) ∧
      r.run ids now shipment side = .ok (report, s') := by
  obtain ⟨old, shipment, delivered, stored, left, sits, ran⟩ := deliverAndPrice_iff.1 h
  exact ⟨old, shipment, delivered.foldl Store.saveSit s, stored, left,
    beside_saveDelivered delivered, fun filed => idDemand_saveDelivered filed sits id, ran⟩

end Recalculator

namespace Services
variable {v : Services} {s s' : Store} {op : Operation}

/-- `op` succeeds on `s` and gives the store on the right. -/
inductive Step (v : Services) (s : Store) : Operation → Store → Prop
  | create {id : LineItemId} {now : Timestamp} {shipmentId : ShipmentId} {form : RequestForm}
      {item : LineItem} {side : Store} : s.Beside side →
      (LineItem.submitted id shipmentId form.tariffCode form.location now).Refilled item →
      Step v s (.createRequest id now shipmentId form) (side.saveLineItem item)
  | update {now : Timestamp} {id : LineItemId} {form : RequestForm} {old filled item : LineItem}
      {shipment : Shipment} {side : Store} : s.lineItems.get? id = some old →
      s.shipments.get? old.shipmentId = some shipment → old.isInvoiced = false →
      old.Refilled filled → s.Beside side →
      v.calculator.Repriced (side.shipmentDiscount shipment) shipment filled item →
      Step v s (.updateLineItem now id form) (side.saveLineItem item)
  | approve {now : Timestamp} {id : LineItemId} {old approved item : LineItem}
      {shipment : Shipment} : s.lineItems.get? id = some old →
      s.shipments.get? old.shipmentId = some shipment →
      old.apply old.approval now = .ok approved → item.status = approved.status →
      (item = approved ∨
        v.calculator.Repriced (s.shipmentDiscount shipment) shipment approved item) →
      Step v s (.approveLineItem now id) (s.saveLineItem item)
  | delete {id : LineItemId} {old : LineItem} {s' : Store} : s.lineItems.get? id = some old →
      old.isInvoiced = false →
      Store.Beside { s with lineItems := s.lineItems.erase old.id } s' →
      Step v s (.deleteLineItem id) s'
  | sit {operation : SitOperation} {s' : Store} : s.Beside s' → Step v s (.sit operation) s'
  | recalculate {ids : IdSupply} {now : Timestamp} {id : ShipmentId} {shipment : Shipment}
      {report : RecalculationReport} {s' : Store} : s.shipments.get? id = some shipment →
      v.recalculator.run ids now shipment s = .ok (report, s') →
      Step v s (.recalculate ids now id) s'
  | deliver {ids : IdSupply} {now : Timestamp} {id : ShipmentId} {date : Date}
      {old shipment : Shipment} {side s' : Store} {report : RecalculationReport} :
      s.shipments.get? id = some old → old.deliver date = .ok shipment → s.Beside side →
      (s.Filed → side.idDemand id = s.idDemand id) →
      v.recalculator.run ids now shipment side = .ok (report, s') →
      Step v s (.deliverAndPrice ids now id date) s'

theorem step_of_run (h : v.run s op = .ok s') : v.Step s op s' := by
  cases op with
  | createRequest id now shipmentId form =>
    obtain ⟨⟨item, _⟩, created, rfl⟩ := map_eq_ok.1 h
    obtain ⟨side, beside, rfl, refilled⟩ := Calculator.createRequest_eq_ok created
    exact .create beside refilled
  | updateLineItem now id form =>
    obtain ⟨⟨item, _⟩, updated, rfl⟩ := map_eq_ok.1 h
    obtain ⟨old, shipment, filled, side, stored, owner, opened, refilled, beside, repriced, rfl⟩ :=
      Calculator.updateLineItem_eq_ok updated
    exact .update stored owner opened refilled beside repriced
  | approveLineItem now id =>
    obtain ⟨⟨item, _⟩, done, rfl⟩ := map_eq_ok.1 h
    obtain ⟨old, shipment, approved, stored, owner, moved, kept, priced, rfl⟩ :=
      Calculator.approveLineItem_eq_ok done
    exact .approve stored owner moved kept priced
  | deleteLineItem id =>
    obtain ⟨⟨item, _⟩, deleted, rfl⟩ := map_eq_ok.1 h
    obtain ⟨stored, opened, beside⟩ := Calculator.deleteLineItem_eq_ok deleted
    exact .delete stored opened beside
  | sit operation =>
    obtain ⟨⟨sit, _⟩, changed, rfl⟩ := map_eq_ok.1 h
    exact .sit (SitOperation.beside changed)
  | recalculate ids now id =>
    obtain ⟨⟨report, _⟩, recalculated, rfl⟩ := map_eq_ok.1 h
    obtain ⟨shipment, stored, ran⟩ := Recalculator.recalculate_eq_ok.1 recalculated
    exact .recalculate stored ran
  | deliverAndPrice ids now id date =>
    obtain ⟨⟨report, _⟩, delivered, rfl⟩ := map_eq_ok.1 h
    obtain ⟨old, shipment, side, stored, left, beside, demand, ran⟩ :=
      Recalculator.deliverAndPrice_eq_ok delivered
    exact .deliver stored left beside demand ran

theorem commit_of_ok (h : v.run s op = .ok s') : v.commit s op = s' := by rw [commit, h]

theorem commit_of_error {e : Error} (h : v.run s op = .error e) : v.commit s op = s := by
  rw [commit, h]

theorem run_eq_commit (succeeds : (v.run s op).toOption.isSome) :
    v.run s op = .ok (v.commit s op) := by
  obtain ⟨s', ran⟩ := Option.isSome_iff_exists.1 succeeds
  have ran := toOption_eq_some.1 ran
  rw [ran, commit_of_ok ran]

/-- What holds before an operation and after it if it succeeds holds of the committed store:
an operation that fails leaves the store as it was. -/
theorem commit_of_run {P : Store → Prop} (before : P s)
    (after : ∀ ⦃s'⦄, v.run s op = .ok s' → P s') : P (v.commit s op) := by
  cases h : v.run s op with
  | ok s' =>
    rw [commit_of_ok h]
    exact after h
  | error e =>
    rw [commit_of_error h]
    exact before

/-- Where the store that an operation succeeds with has `P` exactly if `K` holds, so has the
committed store exactly if `K` holds or the operation fails. -/
theorem commit_iff_of_run {P : Store → Prop} {K : Prop} (before : P s)
    (after : ∀ ⦃s'⦄, v.run s op = .ok s' → (P s' ↔ K)) :
    P (v.commit s op) ↔ ∀ s', v.run s op = .ok s' → K := by
  constructor
  · intro holds s' h
    rw [commit_of_ok h] at holds
    exact (after h).1 holds
  · intro keeps
    exact commit_of_run before fun s' h => (after h).2 (keeps s' h)

theorem commit_of_step {P : Store → Prop} (before : P s) (step : ∀ ⦃s'⦄, v.Step s op s' → P s') :
    P (v.commit s op) := commit_of_run before fun _ h => step (step_of_run h)

/-- What every operation keeps is kept by all of them one after the other. -/
theorem commitAll_of_commit {P : Store → Prop}
    (kept : ∀ ⦃v s op⦄, P s → P (commit v s op)) (start : P s) (ops : List (Services × Operation)) :
    P (commitAll s ops) := by
  induction ops generalizing s with
  | nil => exact start
  | cons op rest ih => exact ih (kept start)

theorem commitAll_append (s : Store) (earlier later : List (Services × Operation)) :
    commitAll s (earlier ++ later) = commitAll (commitAll s earlier) later := List.foldl_append

theorem along_append {Q : Services → Store → Operation → Prop}
    {earlier later : List (Services × Operation)} :
    Along Q s (earlier ++ later) ↔ Along Q s earlier ∧ Along Q (commitAll s earlier) later := by
  induction earlier generalizing s with
  | nil => exact iff_of_eq (true_and _).symm
  | cons op rest ih => exact (and_congr_right fun _ => ih).trans and_assoc.symm

/-- Where an operation keeps `P` exactly if it is `Q`, all stores that a run comes to have
`P` exactly if all its operations are `Q`. -/
theorem commitAll_iff_along {P : Store → Prop} {Q : Services → Store → Operation → Prop}
    (kept : ∀ ⦃v s op⦄, P s → (P (commit v s op) ↔ Q v s op)) (start : P s)
    (ops : List (Services × Operation)) :
    (∀ done, done <+: ops → P (commitAll s done)) ↔ Along Q s ops := by
  induction ops generalizing s with
  | nil =>
    refine iff_of_true (fun done part => ?_) trivial
    obtain rfl := List.prefix_nil.1 part
    exact start
  | cons op rest ih =>
    constructor
    · intro all
      have first : P (op.1.commit s op.2) := all [op] (List.prefix_append [op] rest)
      refine ⟨(kept start).1 first, (ih first).1 fun done part => ?_⟩
      exact all (op :: done) (List.cons_prefix_cons.2 ⟨rfl, part⟩)
    · rintro ⟨here, later⟩ done part
      cases done with
      | nil => exact start
      | cons op' done =>
        obtain ⟨rfl, within⟩ := List.cons_prefix_cons.1 part
        exact (ih ((kept start).2 here)).2 later done within

theorem Step.filed (step : v.Step s op s') (filed : s.Filed) : s'.Filed := by
  cases step with
  | create beside _ => exact (beside.filed filed).saveLineItem _
  | update _ _ _ _ beside _ => exact (beside.filed filed).saveLineItem _
  | approve => exact filed.saveLineItem _
  | delete _ _ beside =>
    exact beside.filed { filed with lineItems := filed.lineItems.erase _ }
  | sit beside => exact beside.filed filed
  | recalculate _ ran => exact Recalculator.filed_run filed ran
  | deliver _ _ beside _ ran => exact Recalculator.filed_run (beside.filed filed) ran

theorem filed_commit (filed : s.Filed) : (v.commit s op).Filed :=
  commit_of_step filed fun _ step => step.filed filed

theorem filed_commitAll (filed : s.Filed) (ops : List (Services × Operation)) :
    (commitAll s ops).Filed := commitAll_of_commit (fun _ _ _ => filed_commit) filed ops

end Services
end Haulage
