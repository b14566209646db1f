import Haulage.Proofs.StayCharges

/-! The life of a SIT record. An operation keeps what stands under an id, erases a record
that may go, or writes one that it may write. So the dates of a record fit its status in
every store that a run comes to, and a stay never ends before it begins. Once the goods are
in the warehouse the record stays, and what has happened to them is not undone. -/
namespace Haulage

namespace Store
variable {s s' : Store} {sit : Sit} {key : SitId}

/-- What becomes of the record under one id. -/
inductive SitStep (s s' : Store) (key : SitId) : Prop
  | kept : s'.sits.get? key = s.sits.get? key → SitStep s s' key
  | written {sit : Sit} : sit.id = key → s'.sits.get? key = some sit → sit.validate.isEmpty →
      s.MayWrite sit → SitStep s s' key
  | removed {home : SitId} {old : Sit} : s.sits.get? home = some old → old.id = key →
      old.isRemovable → s'.sits.get? key = none → SitStep s s' key

theorem sitStep_write (sits : s'.sits = s.sits.insert sit.id sit) (valid : sit.validate.isEmpty)
    (write : s.MayWrite sit) : s.SitStep s' key := by
  have after : s'.sits.get? key = if key = sit.id then some sit else s.sits.get? key := by
    rw [sits, SortedMap.get?_insert]
  by_cases here : key = sit.id
  · rw [if_pos here] at after
    exact .written here.symm after valid write
  · rw [if_neg here] at after
    exact .kept after

/-- A status action writes what it makes of the record, if that is valid. -/
theorem sitStep_changeSit {id : SitId} {action : Sit → Except Error Sit}
    (moves : ∀ {old new}, action old = .ok new → old.Moves new)
    (h : s.changeSit id action = .ok (sit, s')) : s.SitStep s' key := by
  obtain ⟨old, stored, moved, valid, rfl⟩ := changeSit_eq_ok.1 h
  exact sitStep_write rfl valid (.move stored (moves moved))

theorem sitStep_removeSit {id : SitId} (h : s.removeSit id = .ok (sit, s')) :
    s.SitStep s' key := by
  obtain ⟨stored, removable, rfl⟩ := removeSit_eq_ok h
  by_cases here : key = sit.id
  · refine .removed stored here.symm removable ?_
    rw [SortedMap.get?_erase, if_pos here]
  · refine .kept ?_
    rw [SortedMap.get?_erase, if_neg here]

theorem sitStep_saveSitWithAddress {new : Sit} {address : Address}
    (h : s.saveSitWithAddress new address = .ok (sit, s')) : s.SitStep s' key := by
  obtain ⟨_, valid, write, rfl⟩ := saveSitWithAddress_eq_ok h
  exact sitStep_write rfl valid write

theorem get?_saveSits (s : Store) (sits : List Sit) (key : SitId) :
    (sits.foldl saveSit s).sits.get? key = s.sits.get? key ∨
      ∃ sit ∈ sits, sit.id = key ∧ (sits.foldl saveSit s).sits.get? key = some sit := by
  have table : (sits.foldl saveSit s).sits =
      sits.foldl (fun m sit => m.insert sit.id sit) s.sits := by
    induction sits generalizing s with
    | nil => rfl
    | cons sit rest ih => exact ih _
  rw [table]
  exact SortedMap.get?_foldl_insert_cases s.sits sits key

theorem sitStep_saveSits {sits : List Sit}
    (writes : ∀ sit ∈ sits, sit.validate.isEmpty ∧ s.MayWrite sit) :
    s.SitStep (sits.foldl saveSit s) key := by
  rcases get?_saveSits s sits key with same | ⟨sit, mem, here, found⟩
  · exact .kept same
  · exact .written here found (writes sit mem).1 (writes sit mem).2

theorem SitStep.congr {s'' : Store} (step : s.SitStep s' key) (same : s''.sits = s'.sits) :
    s.SitStep s'' key := by
  cases step with
  | kept kept => exact .kept (same ▸ kept)
  | written here found valid write => exact .written here (same ▸ found) valid write
  | removed stored here removable gone => exact .removed stored here removable (same ▸ gone)

end Store

theorem SitOperation.sitStep {operation : SitOperation} {s s' : Store} {sit : Sit} {key : SitId}
    (h : operation.run s = .ok (sit, s')) : s.SitStep s' key := by
  cases operation with
  | save sit address => exact Store.sitStep_saveSitWithAddress h
  | remove id => exact Store.sitStep_removeSit h
  | approve id start notes => exact Store.sitStep_changeSit Sit.moves_approve h
  | deny id notes => exact Store.sitStep_changeSit Sit.moves_deny h
  | placeIntoSit id start => exact Store.sitStep_changeSit Sit.moves_placeIntoSit h
  | deliver id date => exact Store.sitStep_changeSit Sit.moves_deliver h
  | release id date => exact Store.sitStep_changeSit Sit.moves_release h

namespace Recalculator
variable {r : Recalculator} {ids : IdSupply} {now : Timestamp} {id : ShipmentId} {date : Date}
  {shipment : Shipment} {s s' : Store} {report : RecalculationReport} {key : SitId}

theorem run_sits (h : r.run ids now shipment s = .ok (report, s')) : s'.sits = s.sits := by
  obtain ⟨_, _, _, _, _, _, _, s₁, _, _, _, _, resolved, settled⟩ := run_eq_ok.1 h
  obtain rfl : _ = s' := congrArg Prod.snd settled
  have same : s₁.sits = s.sits := resolveDiscount_sits resolved
  rw [settle_store]
  exact same

theorem sitStep_deliverAndPrice (h : r.deliverAndPrice ids now id date s = .ok (report, s')) :
    s.SitStep s' key := by
  obtain ⟨_, _, delivered, _, _, leaving, ran⟩ := deliverAndPrice_iff.1 h
  refine Store.SitStep.congr (Store.sitStep_saveSits fun sit mem => ?_) (run_sits ran)
  obtain ⟨old, memOld, _, _, moves, valid⟩ := deliverSits_eq_ok leaving mem
  obtain ⟨⟨home, stored⟩, _⟩ := Store.of_mem_sitsOf memOld
  exact ⟨valid, .move stored moves⟩

end Recalculator

theorem Calculator.deleteLineItem_sits {c : Calculator} {id : LineItemId} {item : LineItem}
    {s s' : Store} (h : c.deleteLineItem id s = .ok (item, s')) : s'.sits = s.sits := by
  have kept (ids : List DimensionsId) (s : Store) :
      (ids.foldl (fun s id => { s with dimensions := s.dimensions.erase id }) s).sits = s.sits := by
    induction ids generalizing s with
    | nil => rfl
    | cons id rest ih => exact ih _
  obtain ⟨old, _, h⟩ := bind_eq_ok.1 h
  obtain ⟨_, _, h⟩ := bind_eq_ok.1 h
  obtain ⟨_, _, h⟩ := bind_eq_ok.1 h
  obtain ⟨s₁, erased, h⟩ := bind_eq_ok.1 h
  obtain ⟨rfl, rfl⟩ := Prod.mk.inj (Except.ok.inj h)
  obtain ⟨-, rfl⟩ := Store.deleteLineItem_eq_ok.1 (ofStore_eq_ok.1 erased)
  cases old.addressId with
  | none => exact kept _ _
  | some id => exact kept _ _

namespace Services
variable {v : Services} {s s' : Store} {op : Operation}

/-- Operations on line items leave the SIT records alone, and so do recalculations; a
delivery delivers the SITs at the destination. -/
theorem sitStep_of_run (h : v.run s op = .ok s') (key : SitId) : s.SitStep s' key := by
  cases op with
  | createRequest id now shipmentId form =>
    obtain ⟨⟨item, _⟩, created, rfl⟩ := map_eq_ok.1 h
    obtain ⟨_, _, side, _, _, applied, rfl⟩ := Calculator.createRequest_iff.1 created
    exact .kept ((RequestForm.applyTo_keeps applied).2 key)
  | updateLineItem now id form =>
    obtain ⟨⟨item, _⟩, updated, rfl⟩ := map_eq_ok.1 h
    obtain ⟨_, _, _, _, side, _, _, _, _, _, applied, _, rfl⟩ :=
      Calculator.updateLineItem_iff.1 updated
    exact .kept ((RequestForm.applyTo_keeps applied).2 key)
  | approveLineItem now id =>
    obtain ⟨⟨item, _⟩, approved, rfl⟩ := map_eq_ok.1 h
    obtain ⟨_, _, _, _, _, _, _, rfl⟩ := Calculator.approveLineItem_saves approved
    exact .kept rfl
  | deleteLineItem id =>
    obtain ⟨⟨item, _⟩, deleted, rfl⟩ := map_eq_ok.1 h
    exact .kept (congrArg (·.get? key) (Calculator.deleteLineItem_sits deleted))
  | sit operation =>
    obtain ⟨⟨sit, _⟩, changed, rfl⟩ := map_eq_ok.1 h
    exact SitOperation.sitStep changed
  | recalculate ids now id =>
    obtain ⟨⟨report, _⟩, recalculated, rfl⟩ := map_eq_ok.1 h
    obtain ⟨_, _, ran⟩ := Recalculator.recalculate_eq_ok.1 recalculated
    exact .kept (congrArg (·.get? key) (Recalculator.run_sits ran))
  | deliverAndPrice ids now id date =>
    obtain ⟨⟨report, _⟩, delivered, rfl⟩ := map_eq_ok.1 h
    exact Recalculator.sitStep_deliverAndPrice delivered

end Services
namespace Sit

/-- The goods entered the warehouse, not before the authorized start. -/
def Entered (sit : Sit) : Prop :=
  ∃ authorized actual, sit.authorizedStartDate = some authorized ∧
    sit.actualStartDate = some actual ∧ authorized ≤ actual

/-- The goods left the warehouse, not before they entered it. -/
def Left (sit : Sit) : Prop :=
  ∃ actual out, sit.actualStartDate = some actual ∧ sit.outDate = some out ∧ actual ≤ out

/-- The record has the dates that go with its status and no later ones; goods that left did
so at the end of the move that the status tells. -/
def DatesFit (sit : Sit) : Prop :=
  match sit.status with
  | .requested =>
    sit.authorizedStartDate = none ∧ sit.actualStartDate = none ∧ sit.outDate = none
  | .denied => sit.actualStartDate = none ∧ sit.outDate = none
  | .approved =>
    sit.authorizedStartDate.isSome ∧ sit.actualStartDate = none ∧ sit.outDate = none
  | .inSit => sit.Entered ∧ sit.outDate = none
  | .released => sit.location = .origin ∧ sit.Entered ∧ sit.Left
  | .delivered => sit.location = .destination ∧ sit.Entered ∧ sit.Left

/-- The record is valid and its dates fit its status. -/
structure Sound (sit : Sit) : Prop where
  datesFit : sit.DatesFit
  valid : sit.validate.isEmpty

variable {old sit : Sit}

theorem datesFit_request (requested : sit.status = .requested)
    (unauthorized : sit.authorizedStartDate = none) (outside : sit.actualStartDate = none)
    (staying : sit.outDate = none) : sit.DatesFit := by
  unfold DatesFit
  rw [requested]
  exact ⟨unauthorized, outside, staying⟩

/-- Goods that are in the warehouse entered it at the authorized start or later. -/
theorem left_of_dated (entered : old.Entered) (actual : sit.actualStartDate = old.actualStartDate)
    {out : Date} (known : sit.outDate = some out) (dated : sit.Dated) : sit.Left := by
  obtain ⟨_, start, _, started, _⟩ := entered
  have started : sit.actualStartDate = some start := actual.trans started
  exact ⟨start, out, started, known, dated.outInOrder out known start started⟩

theorem DatesFit.moves (fit : old.DatesFit) (moves : old.Moves sit) (dated : sit.Dated) :
    sit.DatesFit := by
  unfold DatesFit at fit
  cases moves with
  | approve start notes applies =>
    rcases applies with requested | denied
    · rw [requested] at fit
      exact ⟨rfl, fit.2⟩
    · rw [denied] at fit
      exact ⟨rfl, fit⟩
  | deny notes applies =>
    rcases applies with requested | approved
    · rw [requested] at fit
      exact fit.2
    · rw [approved] at fit
      exact fit.2
  | placeIntoSit start applies notEarly =>
    rw [applies] at fit
    obtain ⟨authorized, known⟩ := Option.isSome_iff_exists.1 fit.1
    exact ⟨⟨authorized, start, known, rfl, notEarly authorized known⟩, fit.2.2⟩
  | deliver date applies =>
    obtain ⟨stored, destination⟩ := applies
    rw [stored] at fit
    exact ⟨destination, fit.1, left_of_dated fit.1 rfl rfl dated⟩
  | release date applies =>
    obtain ⟨stored, origin⟩ := applies
    rw [stored] at fit
    exact ⟨origin, fit.1, left_of_dated fit.1 rfl rfl dated⟩

theorem DatesFit.edits (fit : old.DatesFit) (edits : old.Edits sit) : sit.DatesFit := by
  have entered : sit.Entered ↔ old.Entered := by
    rw [Entered, edits.authorizedStartDate, edits.actualStartDate, Entered]
  have left : sit.Left ↔ old.Left := by
    rw [Left, edits.actualStartDate, edits.outDate, Left]
  unfold DatesFit at fit ⊢
  rw [edits.status, edits.authorizedStartDate, edits.actualStartDate, edits.outDate, entered,
    left]
  cases here : old.status with
  | requested | denied | approved | inSit => rwa [here] at fit
  | released | delivered =>
    rw [here] at fit
    rwa [edits.location (by rw [here]; rfl)]

/-- The days of a sound stay are those between its dates. -/
theorem Sound.chargeableDays? (sound : sit.Sound) {start out : Date}
    (started : sit.actualStartDate = some start) (ended : sit.outDate = some out) :
    start ≤ out ∧ ∃ days : Nat, sit.chargeableDays? = some days ∧ days = start.daysTo out := by
  have inOrder : start ≤ out :=
    (dated_of_validate sound.valid).outInOrder out ended start started
  have notNegative : 0 ≤ start.daysTo out := Int.sub_nonneg_of_le inOrder
  refine ⟨inOrder, (start.daysTo out).toNat, ?_, Int.toNat_of_nonneg notNegative⟩
  simp only [Sit.chargeableDays?, started, ended, Option.bind_eq_bind, Option.bind_some]
  rfl

end Sit

/-- Every stored SIT record is sound. -/
def Store.SitsSound (s : Store) : Prop := ∀ ⦃key sit⦄, s.sits.get? key = some sit → sit.Sound

namespace Store
variable {s s' : Store}

theorem SitsSound.mayWrite (sound : s.SitsSound) {sit : Sit} (valid : sit.validate.isEmpty)
    (write : s.MayWrite sit) : sit.Sound := by
  refine ⟨?_, valid⟩
  cases write with
  | request _ requested unauthorized outside staying =>
    exact Sit.datesFit_request requested unauthorized outside staying
  | edit stored edits => exact (sound stored).datesFit.edits edits
  | move stored moves => exact (sound stored).datesFit.moves moves (Sit.dated_of_validate valid)

theorem SitsSound.step (sound : s.SitsSound) (step : ∀ key, s.SitStep s' key) : s'.SitsSound := by
  intro key sit stored
  cases step key with
  | kept kept => exact sound (kept ▸ stored)
  | written _ found valid write =>
    obtain rfl := Option.some.inj (found.symm.trans stored)
    exact sound.mayWrite valid write
  | removed _ _ _ gone =>
    rw [gone] at stored
    contradiction

end Store

namespace Services
variable {v : Services} {s s' : Store} {op : Operation}

theorem sitsSound_commit (sound : s.SitsSound) : (v.commit s op).SitsSound :=
  commit_of_run sound fun _ h => sound.step (sitStep_of_run h)

/-- In every store that a run comes to, all SIT records are sound, so that no stay ends
before it begins and the days charged are those between its dates. -/
theorem sitsSound_commitAll (sound : s.SitsSound) (ops : List (Services × Operation)) :
    (commitAll s ops).SitsSound ∧
      ∀ key sit start out, (commitAll s ops).sits.get? key = some sit →
        sit.actualStartDate = some start → sit.outDate = some out →
        start ≤ out ∧ ∃ days : Nat, sit.chargeableDays? = some days ∧
          days = start.daysTo out := by
  have after : (commitAll s ops).SitsSound :=
    commitAll_of_commit (fun _ _ _ => sitsSound_commit) sound ops
  exact ⟨after, fun key sit start out stored => (after stored).chargeableDays?⟩

/-- A new record is entered with dates of its own, approved, denied and approved again, and
the goods are delivered with their shipment, three days after they entered. -/
theorem sitsSound_commitAll_sample :
    let start : Store := { Sample.onTheWay Sample.crating with sits := .empty }
    let ops : List (Services × Operation) :=
      [.save Sample.sit Sample.address, .approve (Sample.id 1) (Sample.day 19020) none,
        .deny (Sample.id 1) (some "Full"), .approve (Sample.id 1) (Sample.day 19021) none,
        .placeIntoSit (Sample.id 1) (Sample.day 19020),
        .placeIntoSit (Sample.id 1) (Sample.day 19022)].map
          (fun operation => (Sample.services, .sit operation)) ++
      [(Sample.services,
        .deliverAndPrice Sample.ids Sample.time (Sample.id 1) (Sample.day 19025))]
    start.SitsSound ∧
      (commitAll start ops).sits.values.map
        (fun sit => (sit.status, sit.authorizedStartDate, sit.chargeableDays?)) =
          [(.delivered, some (Sample.day 19021), some 3)] ∧
      (commitAll start ops).SitsSound := by
  intro start ops
  have sound : start.SitsSound := fun key sit stored => by
    rw [SortedMap.get?_empty] at stored
    contradiction
  exact ⟨sound, by decide +kernel, (sitsSound_commitAll sound ops).1⟩

end Services

/-- `sit` is a later record of the goods that `old` has in storage, or out of it again. -/
structure Sit.Remains (old sit : Sit) : Prop where
  location : sit.location = old.location
  authorizedStartDate : sit.authorizedStartDate = old.authorizedStartDate
  actualStartDate : sit.actualStartDate = old.actualStartDate
  occupied : sit.status.isOccupied
  left : old.status = .released ∨ old.status = .delivered →
    sit.status = old.status ∧ sit.outDate = old.outDate

namespace Sit.Remains
variable {old mid sit : Sit}

theorem refl (occupied : old.status.isOccupied) : old.Remains old :=
  ⟨rfl, rfl, rfl, occupied, fun _ => ⟨rfl, rfl⟩⟩

theorem trans (first : old.Remains mid) (second : mid.Remains sit) : old.Remains sit where
  location := second.location.trans first.location
  authorizedStartDate := second.authorizedStartDate.trans first.authorizedStartDate
  actualStartDate := second.actualStartDate.trans first.actualStartDate
  occupied := second.occupied
  left gone := by
    obtain ⟨status, out⟩ := first.left gone
    obtain ⟨status', out'⟩ := second.left (status ▸ gone)
    exact ⟨status'.trans status, out'.trans out⟩

theorem of_edits (edits : old.Edits sit) (occupied : old.status.isOccupied) : old.Remains sit :=
  ⟨edits.location occupied, edits.authorizedStartDate, edits.actualStartDate,
    edits.status ▸ occupied, fun _ => ⟨edits.status, edits.outDate⟩⟩

/-- Goods in storage can only leave it. -/
theorem of_moves (moves : old.Moves sit) (occupied : old.status.isOccupied) : old.Remains sit := by
  have present {status : SitStatus} (here : old.status = status) : status.isOccupied :=
    here ▸ occupied
  cases moves with
  | approve start notes applies =>
    rcases applies with requested | denied
    · exact absurd (present requested) (by decide)
    · exact absurd (present denied) (by decide)
  | deny notes applies =>
    rcases applies with requested | approved
    · exact absurd (present requested) (by decide)
    · exact absurd (present approved) (by decide)
  | placeIntoSit start applies _ => exact absurd (present applies) (by decide)
  | deliver date applies =>
    refine ⟨rfl, rfl, rfl, rfl, fun gone => ?_⟩
    rw [applies.1] at gone
    exact absurd gone (by decide)
  | release date applies =>
    refine ⟨rfl, rfl, rfl, rfl, fun gone => ?_⟩
    rw [applies.1] at gone
    exact absurd gone (by decide)

end Sit.Remains

theorem Store.SitStep.remains {s s' : Store} {key : SitId} {old : Sit} (step : s.SitStep s' key)
    (filed : s.Filed) (stored : s.sits.get? key = some old) (occupied : old.status.isOccupied) :
    ∃ sit, s'.sits.get? key = some sit ∧ old.Remains sit := by
  cases step with
  | kept kept => exact ⟨old, kept.trans stored, .refl occupied⟩
  | @written sit here found valid write =>
    refine ⟨sit, found, ?_⟩
    cases write with
    | request absent =>
      rw [here, stored] at absent
      contradiction
    | edit before edits =>
      rw [here, stored] at before
      exact .of_edits (Option.some.inj before ▸ edits) occupied
    | @move home before beforeStored moves =>
      have sameKey : home = key := by
        rw [← filed.sits beforeStored, ← moves.continues.id, here]
      rw [sameKey, stored] at beforeStored
      exact .of_moves (Option.some.inj beforeStored ▸ moves) occupied
  | @removed home before beforeStored here removable gone =>
    have sameKey : home = key := (filed.sits beforeStored).symm.trans here
    rw [sameKey, stored] at beforeStored
    obtain rfl := Option.some.inj beforeStored
    simp [Sit.isRemovable, occupied] at removable

namespace Services
variable {v : Services} {s s' : Store} {op : Operation} {key : SitId} {old : Sit}

theorem remains_commit (filed : s.Filed) (stored : s.sits.get? key = some old)
    (occupied : old.status.isOccupied) :
    ∃ sit, (v.commit s op).sits.get? key = some sit ∧ old.Remains sit :=
  commit_of_run (P := fun s => ∃ sit, s.sits.get? key = some sit ∧ old.Remains sit)
    ⟨old, stored, .refl occupied⟩ fun _ h => (sitStep_of_run h key).remains filed stored occupied

/-- Storage is irreversible: what a run has recorded of goods in storage, or out of it again,
stands whatever comes later. -/
theorem remains_commitAll (filed : s.Filed) (earlier later : List (Services × Operation))
    (stored : (commitAll s earlier).sits.get? key = some old)
    (occupied : old.status.isOccupied) :
    ∃ sit, (commitAll s (earlier ++ later)).sits.get? key = some sit ∧ old.Remains sit := by
  have filed' : (commitAll s earlier).Filed := filed_commitAll filed earlier
  rw [commitAll_append]
  generalize commitAll s earlier = t at stored filed'
  induction later generalizing t old with
  | nil => exact ⟨old, stored, .refl occupied⟩
  | cons op rest ih =>
    have first : ∃ mid, (op.1.commit _ op.2).sits.get? key = some mid ∧ old.Remains mid :=
      remains_commit filed' stored occupied
    obtain ⟨mid, found, remains⟩ := first
    obtain ⟨sit, found', remains'⟩ := ih remains.occupied _ found (filed_commit filed')
    exact ⟨sit, found', remains.trans remains'⟩

/-- Goods enter the warehouse, and the record can neither be removed nor denied nor moved to
the other end; the goods leave, and cannot leave again. -/
theorem remains_commitAll_sample :
    let start : Store := { Sample.onTheWay Sample.crating with sits := .empty }
    let steps (operations : List SitOperation) : List (Services × Operation) :=
      operations.map fun operation => (Sample.services, .sit operation)
    let earlier := steps
      [.save Sample.sit Sample.address, .approve (Sample.id 1) (Sample.day 19020) none,
        .placeIntoSit (Sample.id 1) (Sample.day 19022)]
    let later := steps
      [.remove (Sample.id 1), .deny (Sample.id 1) none,
        .save { Sample.sit with location := .origin } Sample.address,
        .deliver (Sample.id 1) (Sample.day 19025), .deliver (Sample.id 1) (Sample.day 19026)]
    start.Filed ∧
      ∃ old, (commitAll start earlier).sits.get? (Sample.id 1) = some old ∧ old.status = .inSit ∧
        ∃ sit, (commitAll start (earlier ++ later)).sits.get? (Sample.id 1) = some sit ∧
          sit.status = .delivered ∧ sit.outDate = some (Sample.day 19025) ∧ old.Remains sit := by
  intro start steps earlier later
  have filed : start.Filed :=
    { Sample.filed_onTheWay Sample.crating with sits := SortedMap.filedBy_empty }
  have entered : ((commitAll start earlier).sits.get? (Sample.id 1)).map (·.status) =
      some .inSit := by decide +kernel
  have left : ((commitAll start (earlier ++ later)).sits.get? (Sample.id 1)).map
      (fun sit => (sit.status, sit.outDate)) = some (.delivered, some (Sample.day 19025)) := by
    decide +kernel
  obtain ⟨old, stored, inside⟩ := Option.map_eq_some_iff.1 entered
  obtain ⟨sit, found, remains⟩ :=
    remains_commitAll filed earlier later stored (by rw [inside]; rfl)
  rw [found, Option.map_some, Option.some.injEq, Prod.mk.injEq] at left
  exact ⟨filed, old, stored, inside, sit, found, left.1, left.2, remains⟩

end Services
end Haulage
