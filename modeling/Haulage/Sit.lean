import Haulage.Calendar.Timestamp
import Haulage.Error

/-! Storage in transit: a request for it is approved or denied, the goods enter the
warehouse and leave it at their end of the move. Dates belong to these actions; plain
edits do not touch them. -/
namespace Haulage

namespace SitStatus

/-- The status after an action at a location. A delivery of anything but a destination SIT
that is in storage is a conflict, and so is a release of anything but such an origin SIT,
even if it has left already. Any other refusal is an invalid transition. -/
def transition (s : SitStatus) (action : SitAction) (location : SitLocation) :
    Except Error SitStatus :=
  match s, action, location with
  | requested, .approve, _ | denied, .approve, _ => .ok approved
  | requested, .deny, _ | approved, .deny, _ => .ok denied
  | approved, .placeIntoSit, _ => .ok inSit
  | inSit, .deliver, .destination => .ok delivered
  | inSit, .release, .origin => .ok released
  | _, .deliver, _ | _, .release, _ => .error (.writeConflict (.sitExit action location s))
  | _, _, _ => .error (.invalidTransition s.name action.name)

end SitStatus

structure Sit where
  id : SitId
  shipmentId : ShipmentId
  sitNumber : Option String
  status : SitStatus
  location : SitLocation
  estimatedStartDate : Date
  authorizedStartDate : Option Date
  actualStartDate : Option Date
  outDate : Option Date
  notes : Option String
  authorizationNotes : Option String
  warehouseId : String
  warehouseName : String
  warehouseAddressId : AddressId
  warehousePhone : Option String
  warehouseEmail : Option String
  createdAt : Timestamp
deriving DecidableEq

namespace Sit

/-- What makes a date unfit: it lies before the one it follows. -/
def tooEarly (date : Date) (what : String) (earliest : Date) : String :=
  s!"{date} is before the {what} date {earliest}"

def approve (sit : Sit) (start : Date) (notes : Option String) : Except Error Sit := do
  let status ← sit.status.transition .approve sit.location
  return { sit with status, authorizedStartDate := some start, authorizationNotes := notes }

def deny (sit : Sit) (notes : Option String) : Except Error Sit := do
  let status ← sit.status.transition .deny sit.location
  return { sit with status, authorizationNotes := notes }

/-- The goods enter the warehouse, not before the authorized start. -/
def placeIntoSit (sit : Sit) (start : Date) : Except Error Sit := do
  let status ← sit.status.transition .placeIntoSit sit.location
  match sit.authorizedStartDate with
  | some authorized =>
    if start < authorized then
      throw (.invalid "actual_start_date" (tooEarly start "authorized start" authorized))
  | none => pure ()
  return { sit with status, actualStartDate := some start }

def deliver (sit : Sit) (date : Date) : Except Error Sit := do
  let status ← sit.status.transition .deliver sit.location
  return { sit with status, outDate := some date }

def release (sit : Sit) (date : Date) : Except Error Sit := do
  let status ← sit.status.transition .release sit.location
  return { sit with status, outDate := some date }

/-- Whole days from entering to leaving, none if that is before it; unknown until both
dates are. -/
def chargeableDays? (sit : Sit) : Option Nat := do
  let start ← sit.actualStartDate
  let out ← sit.outDate
  return (start.daysTo out).toNat

/-- A new record is a request without dates of a stay. -/
def asRequest (sit : Sit) : Sit :=
  { sit with
    status := .requested, authorizedStartDate := none, actualStartDate := none, outDate := none }

/-- The fields of the status actions that differ from the stored record; an occupied
one also keeps its location. -/
def lifecycleChanges (sit stored : Sit) : List String :=
  (if sit.status ≠ stored.status then ["status"] else []) ++
  (if sit.authorizedStartDate ≠ stored.authorizedStartDate then ["authorized_start_date"] else []) ++
  (if sit.actualStartDate ≠ stored.actualStartDate then ["actual_start_date"] else []) ++
  (if sit.outDate ≠ stored.outDate then ["out_date"] else []) ++
  (if stored.status.isOccupied ∧ sit.location ≠ stored.location then ["location"] else [])

/-- A plain save may not touch what the status actions own. -/
def ensureLifecycleUnchanged (sit stored : Sit) : Except Error Unit :=
  let changed := sit.lifecycleChanges stored
  if changed = [] then .ok ()
  else .error (.writeConflict (.sitFields stored.id stored.status changed))

def isRemovable (sit : Sit) : Bool := !sit.status.isOccupied

/-- The later of two dates must not lie before the earlier one, where both are known. -/
def addIfEarly (field what : String) (date earliest : Option Date) (e : FieldErrors) : FieldErrors :=
  match date, earliest with
  | some date, some earliest => e.addIf (date < earliest) field (tooEarly date what earliest)
  | _, _ => e

def validate (sit : Sit) : FieldErrors :=
  let missing := s!"is required once the SIT is {sit.status.name}"
  FieldErrors.empty
    |>.addIf (isBlankText sit.warehouseId) "warehouse_id" "can not be blank"
    |>.addIf (isBlankText sit.warehouseName) "warehouse_name" "can not be blank"
    |>.addIf (sit.sitNumber.any isBlankText) "sit_number" "can not be blank when present"
    |>.addIf (sit.notes.any isBlankText) "notes" "can not be blank when present"
    |>.addIf (sit.authorizationNotes.any isBlankText) "authorization_notes"
      "can not be blank when present"
    |>.addIf (sit.warehousePhone.any isBlankText) "warehouse_phone" "can not be blank when present"
    |>.addIf (sit.warehouseEmail.any isBlankText) "warehouse_email" "can not be blank when present"
    |>.addIf (sit.status.isOccupied ∧ sit.actualStartDate = none) "actual_start_date" missing
    |>.addIf ((sit.status = .released ∨ sit.status = .delivered) ∧ sit.outDate = none)
      "out_date" missing
    |> addIfEarly "actual_start_date" "authorized start" sit.actualStartDate
      sit.authorizedStartDate
    |> addIfEarly "out_date" "actual start" sit.outDate sit.actualStartDate

end Sit
end Haulage
