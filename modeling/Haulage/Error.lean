import Haulage.Calendar.Date
import Haulage.FieldErrors
import Haulage.Identifier
import Haulage.Status
import Haulage.Units

/-! What can go wrong, by cause, with one wording for each cause, a number and a class
for callers. -/
namespace Haulage

/-- What a look-up looks for. -/
inductive Subject where
  | tariffItem | rateArea | region | grouping | performance | shipment | lineItem | sit | route
deriving DecidableEq

def Subject.name : Subject → String
  | tariffItem => "tariff item"
  | rateArea => "rate area"
  | region => "region"
  | grouping => "traffic distribution grouping"
  | performance => "carrier performance"
  | shipment => "shipment"
  | lineItem => "line item"
  | sit => "storage in transit"
  | route => "route"

/-- Why a record is in no state for a write. -/
inductive Conflict where
  | approvedItem (id : LineItemId)
  | frozenFields (id : LineItemId) (fields : List String)
  | sitExit (action : SitAction) (location : SitLocation) (status : SitStatus)
  | sitFields (id : SitId) (status : SitStatus) (fields : List String)
  | unpriceableShipment (id : ShipmentId) (status : ShipmentStatus)
  | stated (text : String)
deriving DecidableEq

def Conflict.message : Conflict → String
  | approvedItem id => s!"line item {id} is approved and can no longer be changed"
  | frozenFields id fields =>
    s!"line item {id} is approved; " ++ ", ".intercalate fields ++ " can no longer be changed"
  | sitExit action location status =>
    s!"cannot {action.name} {location.name} SIT in status {status.name}"
  | sitFields id status fields =>
    s!"storage in transit {id} is {status.name}; " ++ ", ".intercalate fields ++
      " can only change through its status actions"
  | unpriceableShipment id status => s!"shipment {id} is {status.name} and cannot be priced"
  | stated text => text

/-- Why a record must stay as it is. -/
inductive Refusal where
  | invoicedItem (id : LineItemId)
  | invoicedItemKept (id : LineItemId)
  | noPreApproval (code : String)
  | occupiedSit (id : SitId) (status : SitStatus)
  | stated (text : String)
deriving DecidableEq

def Refusal.message : Refusal → String
  | invoicedItem id => s!"line item {id} is invoiced"
  | invoicedItemKept id => s!"line item {id} is invoiced and cannot be deleted"
  | noPreApproval code => s!"tariff item {code} does not require pre-approval"
  | occupiedSit id status => s!"storage in transit {id} is {status.name} and cannot be deleted"
  | stated text => text

inductive OutOfRange where
  | amount (amount : Decimal)
  | mileage (quantity : Quantity)
  | product (a b : Decimal)
  | quotient (a : Decimal) (divisor : Nat)
  | stated (text : String)
deriving DecidableEq

def OutOfRange.message : OutOfRange → String
  | amount a => s!"{a} does not fit in 64 bits"
  | mileage q => s!"{q.val.toInt} is not a valid mileage"
  | product a b => s!"{a} * {b} overflows"
  | quotient a divisor => s!"{a} / {divisor} overflows"
  | stated text => text

/-- What a store refuses. -/
inductive StoreError where
  | notFound (what : String)
  | conflict (what : String)
deriving DecidableEq

namespace StoreError

def message : StoreError → String
  | notFound what => "Not found: " ++ what
  | conflict what => "Conflict: " ++ what

def isConflict : StoreError → Bool
  | conflict _ => true
  | notFound _ => false

def isNotFound : StoreError → Bool
  | notFound _ => true
  | conflict _ => false

end StoreError

inductive ConfigError where
  | invalidDataset
  | invalidReference
  | invalidToml
  | unreadable (file : String)
  | notADuration (setting quoted : String)
  | zeroTimeout
  | blank (key : String)
deriving DecidableEq

def ConfigError.message : ConfigError → String
  | invalidDataset => "invalid dataset"
  | invalidReference => "invalid reference data"
  | invalidToml => "invalid TOML"
  | unreadable file => "cannot read " ++ file
  | notADuration name quoted => name ++ "=" ++ quoted ++ " is not a duration"
  | zeroTimeout => "distance_timeout must be greater than zero"
  | blank key => key ++ " can not be blank"

inductive Error where
  | notFound (subject : Subject) (id : String)
  | invalidTransition (status action : String)
  | writeConflict (cause : Conflict)
  | forbidden (cause : Refusal)
  | validation (errors : FieldErrors)
  /-- The tariff has nothing for this combination; it is never priced as zero. -/
  | noApplicableRate (code : String) (weight : Pounds) (date : Date) (miles : Option Miles)
  | distanceUnavailable (reason : String)
  | arithmetic (cause : OutOfRange)
  | store (cause : StoreError)
  | config (cause : ConfigError)
deriving DecidableEq

/-- How callers answer an error. -/
inductive ErrorKind where
  | notFound | forbidden | unprocessable | conflict | internal
deriving DecidableEq

namespace Error

def invalid (field text : String) : Error := .validation (.single field text)

def message : Error → String
  | notFound subject id => subject.name ++ " not found: " ++ id
  | invalidTransition status action =>
    "invalid transition: cannot " ++ action ++ " from status " ++ status
  | writeConflict cause => "write conflict: " ++ cause.message
  | forbidden cause => "forbidden: " ++ cause.message
  | validation errors => "validation failed: " ++ errors.toText
  | noApplicableRate code weight date miles =>
    s!"no applicable rate for {code} at {weight} on {date}" ++
      (match miles with | some m => s!" over {m} mi" | none => "")
  | distanceUnavailable reason => "distance unavailable: " ++ reason
  | arithmetic cause => "arithmetic error: " ++ cause.message
  | store cause => cause.message
  | config cause => "configuration error: " ++ cause.message

instance : ToString Error := ⟨message⟩

/-- Look-ups from 1000, state from 2000, storage from 3000, pricing from 4000, routing
from 5000, validation from 7000, configuration from 8000. -/
def code : Error → Nat
  | notFound .. => 1001
  | invalidTransition .. => 2001
  | writeConflict _ => 2002
  | forbidden _ => 2003
  | store (.notFound _) => 3004
  | store (.conflict _) => 3005
  | noApplicableRate .. => 4001
  | arithmetic _ => 4002
  | distanceUnavailable _ => 5001
  | validation _ => 7001
  | config _ => 8001

def codes : List Nat := [1001, 2001, 2002, 2003, 3004, 3005, 4001, 4002, 5001, 7001, 8001]

def describeCode : Nat → String
  | 1001 => "The requested record does not exist"
  | 2001 => "The record's current status does not allow this action"
  | 2002 => "The record is not in a state that permits this write"
  | 2003 => "The record cannot be changed or removed"
  | 3004 => "Record missing from the store"
  | 3005 => "A record with the same unique key exists"
  | 4001 => "No tariff rate covers the weight, date and distance"
  | 4002 => "Amount out of range"
  | 5001 => "Distance between the addresses could not be determined"
  | 7001 => "One or more fields failed validation"
  | 8001 => "Invalid configuration"
  | _ => "Unknown error"

def kind : Error → ErrorKind
  | notFound .. | store (.notFound _) => .notFound
  | invalidTransition .. | forbidden _ => .forbidden
  | validation _ | noApplicableRate .. => .unprocessable
  | writeConflict _ | store (.conflict _) => .conflict
  | distanceUnavailable _ | arithmetic _ | config _ => .internal

def isNotFound (e : Error) : Bool := e.kind = .notFound

end Error

/-- Passes if nothing was collected. -/
def FieldErrors.check (e : FieldErrors) : Except Error Unit :=
  if e.isEmpty then .ok () else .error (.validation e)

/-- What a look-up found, or the error that names what it looked for. -/
def require {α : Type} (subject : Subject) (id : String) : Option α → Except Error α
  | some a => .ok a
  | none => .error (.notFound subject id)

end Haulage
