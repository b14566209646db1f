import Haulage.Proofs.Results
import Haulage.Proofs.Validation
import Haulage.Recalculation
import Haulage.Warehousing

/-! What the operations on SIT records do when they succeed. A record that is written is
valid: it is a new request, an edit that leaves alone what the status actions own, or the
outcome of one status action. -/
namespace Haulage

namespace SitAction

/-- The status that the action leads to. -/
def target : SitAction → SitStatus
  | approve => .approved
  | deny => .denied
  | placeIntoSit => .inSit
  | deliver => .delivered
  | release => .released

/-- The action may be taken in this status, at this end of the move. -/
def Applies (status : SitStatus) (location : SitLocation) : SitAction → Prop
  | approve => status = .requested ∨ status = .denied
  | deny => status = .requested ∨ status = .approved
  | placeIntoSit => status = .approved
  | deliver => status = .inSit ∧ location = .destination
  | release => status = .inSit ∧ location = .origin

end SitAction

theorem SitStatus.transition_eq_ok {status status' : SitStatus} {action : SitAction}
    {location : SitLocation} :
    status.transition action location = .ok status' ↔
      action.Applies status location ∧ status' = action.target := by
  cases status <;> cases action <;> cases location <;>
    simp [transition, SitAction.Applies, SitAction.target, eq_comm]

namespace Sit

/-- `sit` is a later state of `old`: the record of the same stay, of the same shipment. -/
structure Continues (old sit : Sit) : Prop where
  id : sit.id = old.id
  shipmentId : sit.shipmentId = old.shipmentId

/-- `sit` is what a status action makes of `old`. -/
inductive Moves (old : Sit) : Sit → Prop
  | approve (start : Date) (notes : Option String) :
      SitAction.approve.Applies old.status old.location → Moves old
        { old with
          status := .approved, authorizedStartDate := some start, authorizationNotes := notes }
  | deny (notes : Option String) : SitAction.deny.Applies old.status old.location →
      Moves old { old with status := .denied, authorizationNotes := notes }
  | placeIntoSit (start : Date) : SitAction.placeIntoSit.Applies old.status old.location →
      (∀ authorized ∈ old.authorizedStartDate, authorized ≤ start) →
      Moves old { old with status := .inSit, actualStartDate := some start }
  | deliver (date : Date) : SitAction.deliver.Applies old.status old.location →
      Moves old { old with status := .delivered, outDate := some date }
  | release (date : Date) : SitAction.release.Applies old.status old.location →
      Moves old { old with status := .released, outDate := some date }

/-- `sit` has of `old` what the status actions own. -/
structure Edits (old sit : Sit) : Prop where
  status : sit.status = old.status
  authorizedStartDate : sit.authorizedStartDate = old.authorizedStartDate
  actualStartDate : sit.actualStartDate = old.actualStartDate
  outDate : sit.outDate = old.outDate
  location : old.status.isOccupied → sit.location = old.location

variable {old sit : Sit}

theorem moves_approve {start : Date} {notes : Option String}
    (h : old.approve start notes = .ok sit) : old.Moves sit := by
  obtain ⟨status, moved, h⟩ := bind_eq_ok.1 h
  obtain ⟨applies, rfl⟩ := SitStatus.transition_eq_ok.1 moved
  obtain rfl := Except.ok.inj h
  exact .approve start notes applies

theorem moves_deny {notes : Option String} (h : old.deny notes = .ok sit) : old.Moves sit := by
  obtain ⟨status, moved, h⟩ := bind_eq_ok.1 h
  obtain ⟨applies, rfl⟩ := SitStatus.transition_eq_ok.1 moved
  obtain rfl := Except.ok.inj h
  exact .deny notes applies

theorem moves_placeIntoSit {start : Date} (h : old.placeIntoSit start = .ok sit) :
    old.Moves sit := by
  obtain ⟨status, moved, h⟩ := bind_eq_ok.1 h
  obtain ⟨applies, rfl⟩ := SitStatus.transition_eq_ok.1 moved
  dsimp only at h
  split at h
  · next authorized known =>
    split at h
    · contradiction
    · next inOrder =>
      obtain rfl := Except.ok.inj h
      refine .placeIntoSit start applies fun date stored => ?_
      rw [known] at stored
      exact Option.some.inj stored ▸ Date.not_lt.1 inOrder
  · next unknown =>
    obtain rfl := Except.ok.inj h
    exact .placeIntoSit start applies (by simp [unknown])

theorem moves_deliver {date : Date} (h : old.deliver date = .ok sit) : old.Moves sit := by
  obtain ⟨status, moved, h⟩ := bind_eq_ok.1 h
  obtain ⟨applies, rfl⟩ := SitStatus.transition_eq_ok.1 moved
  obtain rfl := Except.ok.inj h
  exact .deliver date applies

theorem moves_release {date : Date} (h : old.release date = .ok sit) : old.Moves sit := by
  obtain ⟨status, moved, h⟩ := bind_eq_ok.1 h
  obtain ⟨applies, rfl⟩ := SitStatus.transition_eq_ok.1 moved
  obtain rfl := Except.ok.inj h
  exact .release date applies

/-- The SIT leaves storage when its shipment is delivered. -/
def Leaves (sit : Sit) : Prop := sit.status = .inSit ∧ sit.location = .destination

instance (sit : Sit) : Decidable sit.Leaves :=
  inferInstanceAs (Decidable (sit.status = .inSit ∧ sit.location = .destination))

def outOn (date : Date) (sit : Sit) : Sit := { sit with status := .delivered, outDate := some date }

@[simp] theorem outOn_id (date : Date) (sit : Sit) : (sit.outOn date).id = sit.id := rfl

theorem deliver_eq_ok {date : Date} :
    old.deliver date = .ok sit ↔ old.Leaves ∧ old.outOn date = sit := by
  simp only [deliver, bind_eq_ok, SitStatus.transition_eq_ok, pure, Except.pure, Except.ok.injEq]
  constructor
  · rintro ⟨_, ⟨leaves, rfl⟩, rfl⟩
    exact ⟨leaves, rfl⟩
  · rintro ⟨leaves, rfl⟩
    exact ⟨_, ⟨leaves, rfl⟩, rfl⟩

theorem Moves.continues (moves : old.Moves sit) : old.Continues sit := by
  cases moves <;> exact ⟨rfl, rfl⟩

theorem edits_of_ensureLifecycleUnchanged (h : sit.ensureLifecycleUnchanged old = .ok ()) :
    old.Edits sit := by
  unfold ensureLifecycleUnchanged at h
  dsimp only at h
  split at h
  · next unchanged =>
    simp only [lifecycleChanges, List.append_eq_nil_iff, ite_eq_right_iff, reduceCtorEq, imp_false,
      not_and, Classical.not_not] at unchanged
    obtain ⟨⟨⟨⟨status, authorized⟩, actual⟩, out⟩, location⟩ := unchanged
    exact ⟨status, authorized, actual, out, location⟩
  · contradiction

end Sit

namespace Store
variable {s s' : Store} {sit : Sit}

/-- What may be written under the id of `sit`. -/
inductive MayWrite (s : Store) (sit : Sit) : Prop
  /-- A new record is a request without dates of a stay. -/
  | request : s.sits.get? sit.id = none → sit.status = .requested →
      sit.authorizedStartDate = none → sit.actualStartDate = none → sit.outDate = none →
      MayWrite s sit
  | edit {old : Sit} : s.sits.get? sit.id = some old → old.Edits sit → MayWrite s sit
  | move {home : SitId} {old : Sit} : s.sits.get? home = some old → old.Moves sit → MayWrite s sit

theorem loadSit_eq_ok {id : SitId} : s.loadSit id = .ok sit ↔ s.sits.get? id = some sit :=
  require_eq_ok

theorem changeSit_eq_ok {id : SitId} {action : Sit → Except Error Sit} :
    s.changeSit id action = .ok (sit, s') ↔
      ∃ old, s.sits.get? id = some old ∧ action old = .ok sit ∧ sit.validate.isEmpty ∧
        s' = s.saveSit sit := by
  simp only [changeSit, bind_eq_ok, loadSit_eq_ok, pure, Except.pure, Except.ok.injEq,
    Prod.mk.injEq]
  constructor
  · rintro ⟨old, stored, _, changed, ⟨⟩, checked, rfl, rfl⟩
    exact ⟨old, stored, changed, FieldErrors.check_eq_ok.1 checked, rfl⟩
  · rintro ⟨old, stored, changed, valid, rfl⟩
    exact ⟨old, stored, sit, changed, (), FieldErrors.check_eq_ok.2 valid, rfl, rfl⟩

theorem removeSit_eq_ok {id : SitId} (h : s.removeSit id = .ok (sit, s')) :
    s.sits.get? id = some sit ∧ sit.isRemovable ∧
      s' = { s with sits := s.sits.erase sit.id } := by
  obtain ⟨old, stored, h⟩ := bind_eq_ok.1 h
  split at h
  · next removable =>
    obtain ⟨s₁, erased, h⟩ := bind_eq_ok.1 h
    obtain ⟨-, rfl⟩ := deleteSit_eq_ok.1 (ofStore_eq_ok.1 erased)
    obtain ⟨rfl, rfl⟩ := Prod.mk.inj (Except.ok.inj h)
    exact ⟨loadSit_eq_ok.1 stored, removable, rfl⟩
  · contradiction

/-- What is checked together with other problems is valid by itself. -/
theorem validate_of_check {path field text : String} {before errors : FieldErrors}
    {missing : Bool}
    (h : (((FieldErrors.empty.appendUnder path before).append errors).addIf missing field
      text).check = .ok ()) : errors.isEmpty := by
  have none_ := FieldErrors.check_eq_ok.1 h
  simp only [FieldErrors.isEmpty_addIf, FieldErrors.isEmpty_append, Bool.and_eq_true] at none_
  exact none_.1.2

/-- The record is saved for the shipment that it names, be there another or not. -/
theorem saveSitWithAddress_eq_ok {new : Sit} {address : Address}
    (h : s.saveSitWithAddress new address = .ok (sit, s')) :
    new.Continues sit ∧ sit.validate.isEmpty ∧ s.MayWrite sit ∧
      s' = (s.saveAddress address).saveSit sit := by
  unfold saveSitWithAddress at h
  dsimp only at h
  split at h
  · next old stored =>
    obtain ⟨_, unchanged, h⟩ := bind_eq_ok.1 h
    obtain ⟨_, kept, h⟩ := bind_eq_ok.1 h
    obtain rfl := Except.ok.inj kept
    obtain ⟨_, checked, h⟩ := bind_eq_ok.1 h
    obtain ⟨rfl, rfl⟩ := Prod.mk.inj (Except.ok.inj h)
    have edits := Sit.edits_of_ensureLifecycleUnchanged unchanged
    exact ⟨⟨rfl, rfl⟩, validate_of_check checked, .edit stored { edits with }, rfl⟩
  · next absent =>
    obtain ⟨_, reset, h⟩ := bind_eq_ok.1 h
    obtain rfl := Except.ok.inj reset
    obtain ⟨_, checked, h⟩ := bind_eq_ok.1 h
    obtain ⟨rfl, rfl⟩ := Prod.mk.inj (Except.ok.inj h)
    exact ⟨⟨rfl, rfl⟩, validate_of_check checked, .request absent rfl rfl rfl rfl, rfl⟩

end Store

/-- The SITs that leave with the shipment are those at its destination. They are delivered,
and all of them must be valid. -/
theorem Recalculator.deliverSits_iff {date : Date} {sits delivered : List Sit} :
    deliverSits date sits = .ok delivered ↔
      delivered = (sits.filter fun sit => sit.Leaves).map (Sit.outOn date) ∧
        ∀ sit ∈ delivered, sit.validate.isEmpty := by
  have each : (sits.filter fun sit => sit.Leaves).mapM (·.deliver date) = .ok delivered ↔
      delivered = (sits.filter fun sit => sit.Leaves).map (Sit.outOn date) := by
    have leave : ∀ sit ∈ sits.filter fun sit => sit.Leaves, sit.Leaves := fun sit mem =>
      of_decide_eq_true (List.mem_filter.1 mem).2
    simp only [mapM_eq_ok, Sit.deliver_eq_ok, List.forall₂_and_left]
    rw [and_iff_right leave, ← List.forall₂_map_left_iff (R := Eq), List.forall₂_eq_eq_eq, eq_comm]
  constructor
  · intro h
    obtain ⟨_, all, h⟩ := bind_eq_ok.1 h
    obtain ⟨_, checked, h⟩ := bind_eq_ok.1 h
    obtain rfl := Except.ok.inj h
    have valid := FieldErrors.isEmpty_foldl_appendUnder.1 (FieldErrors.check_eq_ok.1 checked)
    exact ⟨each.1 all, valid.2⟩
  · rintro ⟨same, valid⟩
    refine bind_eq_ok.2 ⟨delivered, each.2 same, bind_eq_ok.2 ⟨(), ?_, rfl⟩⟩
    exact FieldErrors.check_eq_ok.2 (FieldErrors.isEmpty_foldl_appendUnder.2 ⟨rfl, valid⟩)

theorem Recalculator.deliverSits_eq_ok {date : Date} {sits delivered : List Sit}
    (h : deliverSits date sits = .ok delivered) {sit : Sit} (mem : sit ∈ delivered) :
    ∃ old ∈ sits, old.status = .inSit ∧ old.location = .destination ∧ old.Moves sit ∧
      sit.validate.isEmpty := by
  obtain ⟨rfl, valid⟩ := deliverSits_iff.1 h
  obtain ⟨old, memOld, left⟩ := List.mem_map.1 mem
  rw [List.mem_filter, decide_eq_true_eq] at memOld
  obtain ⟨memOld, status, location⟩ := memOld
  have moves : old.Moves sit := left ▸ .deliver date ⟨status, location⟩
  exact ⟨old, memOld, status, location, moves, valid sit mem⟩

end Haulage
