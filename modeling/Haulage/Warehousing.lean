import Haulage.Store

/-! Operations on SIT records: saving with the warehouse address, deletion, and the
status actions. Each gives the record and the new store, or an error and no new store. -/
namespace Haulage.Store

/-- Saves a SIT and the address of its warehouse, reporting the problems of both at
once. A new record becomes a request; an existing one keeps what the status actions
own. -/
def saveSitWithAddress (store : Store) (sit : Sit) (address : Address) :
    Except Error (Sit × Store) := do
  let sit ← match store.sits.get? sit.id with
    | some stored => do sit.ensureLifecycleUnchanged stored; pure sit
    | none => pure sit.asRequest
  let sit := { sit with warehouseAddressId := address.id }
  FieldErrors.empty.appendUnder "warehouse_address" address.validate
    |>.append sit.validate
    |>.addIf (!store.shipments.contains sit.shipmentId) "shipment_id"
      s!"shipment {sit.shipmentId} does not exist"
    |>.check
  return (sit, (store.saveAddress address).saveSit sit)

def removeSit (store : Store) (id : SitId) : Except Error (Sit × Store) := do
  let sit ← store.loadSit id
  if sit.isRemovable then return (sit, ← ofStore (store.deleteSit sit.id))
  else throw (.forbidden (.occupiedSit sit.id sit.status))

/-- Applies a status action to the stored record and checks the result. -/
def changeSit (store : Store) (id : SitId) (action : Sit → Except Error Sit) :
    Except Error (Sit × Store) := do
  let sit ← action (← store.loadSit id)
  sit.validate.check
  return (sit, store.saveSit sit)

def approveSit (store : Store) (id : SitId) (start : Date) (notes : Option String) :
    Except Error (Sit × Store) :=
  store.changeSit id (·.approve start notes)

def denySit (store : Store) (id : SitId) (notes : Option String) : Except Error (Sit × Store) :=
  store.changeSit id (·.deny notes)

def placeIntoSit (store : Store) (id : SitId) (start : Date) : Except Error (Sit × Store) :=
  store.changeSit id (·.placeIntoSit start)

def deliverSit (store : Store) (id : SitId) (date : Date) : Except Error (Sit × Store) :=
  store.changeSit id (·.deliver date)

def releaseSit (store : Store) (id : SitId) (date : Date) : Except Error (Sit × Store) :=
  store.changeSit id (·.release date)

end Haulage.Store
