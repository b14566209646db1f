import Haulage.Quote
import Haulage.Store

/-! The line items that a priced shipment must have: every base charge once, and for
each completed SIT one item for the first day and one for the further days. -/
namespace Haulage

namespace RateTable

/-- The category of a mandatory base charge: its code, tied to no SIT, and not of a
tariff item that needs pre-approval. -/
def baseCategory? (t : RateTable) (item : LineItem) : Option BaseCategory :=
  match BaseCategory.ofCode? item.tariffCode with
  | some category =>
    if item.sitId.isSome ∨ (t.items.get? item.tariffCode).any (·.requiresPreApproval) then none
    else some category
  | none => none

def missingBaseCategories (t : RateTable) (items : List LineItem) : List BaseCategory :=
  BaseCategory.all.filter fun c => c ∉ items.filterMap t.baseCategory?

/-- One counter for each category, at its index. -/
def tally (t : RateTable) (items : List LineItem) : Vector Nat BaseCategory.all.length :=
  (items.filterMap t.baseCategory?).foldl
    (fun counts category => counts.set category.index (counts[category.index] + 1))
    (.replicate _ 0)

def baseCount (t : RateTable) (items : List LineItem) (category : BaseCategory) : Nat :=
  (t.tally items)[category.index]

/-- Every category has exactly one base item; the first that has not is named. -/
def verifyBaseItems (t : RateTable) (items : List LineItem) : Except Error Unit :=
  match BaseCategory.all.find? fun c => t.baseCount items c ≠ 1 with
  | none => .ok ()
  | some category => .error (.invalid "line_items"
      s!"expected exactly one {category.code} base line item, found {t.baseCount items category}")

/-- A base item that is not invoiced, its quantities brought up to date; any other item
as it is. -/
def refreshBaseItem (t : RateTable) (weight : Pounds) (miles : Miles) (item : LineItem) : LineItem :=
  if item.isInvoiced then item
  else match t.baseCategory? item with
    | some category => item.withBaseQuantities category weight miles
    | none => item

end RateTable

/-- Line items of one shipment, and the ids of those made in this run. -/
structure Basket where
  items : List LineItem
  created : List LineItemId
deriving DecidableEq

namespace Basket

/-- The id of the next item: the supply's first is for a grouping, the others go to
items in the order in which they are made. -/
def nextId (b : Basket) (ids : IdSupply) : LineItemId := ⟨ids (b.created.length + 1)⟩

def push (b : Basket) (item : LineItem) : Basket :=
  { items := b.items ++ [item], created := b.created ++ [item.id] }

def addMissing (b : Basket) (t : RateTable) (ids : IdSupply) (shipmentId : ShipmentId)
    (now : Timestamp) : Basket :=
  (t.missingBaseCategories b.items).foldl
    (fun b category => b.push (.base (b.nextId ids) shipmentId category now)) b

def refreshBase (b : Basket) (t : RateTable) (weight : Pounds) (miles : Miles) : Basket :=
  { b with items := b.items.map (t.refreshBaseItem weight miles) }

def isSitItem (sit : Sit) (code : String) (item : LineItem) : Bool :=
  item.sitId = some sit.id ∧ item.tariffCode = code

def modifyFirst {α : Type} (p : α → Bool) (f : α → α) : List α → List α
  | [] => []
  | a :: rest => if p a then f a :: rest else a :: modifyFirst p f rest

/-- What a SIT item is charged by: the weight, and for further days their number. -/
def withStay (item : LineItem) (sit : Sit) (weight : Pounds) (days : Nat) : LineItem :=
  { item with
    location := sit.location.lineItemLocation
    quantity1 := .ofUnits weight.val
    quantity2 :=
      if item.tariffCode = sitAdditionalDaysCode then .ofUnits (Int64.ofNat (days - 1)) else .zero }

def refreshStay (sit : Sit) (weight : Pounds) (days : Nat) (item : LineItem) : LineItem :=
  if item.isInvoiced then item else withStay item sit weight days

def stayItem (id : LineItemId) (shipmentId : ShipmentId) (now : Timestamp) (weight : Pounds)
    (sit : Sit) (days : Nat) (code : String) : LineItem :=
  let item := LineItem.approvedNow id shipmentId code sit.location.lineItemLocation now
  withStay { item with sitId := some sit.id } sit weight days

/-- The item of one code for a stay: brought up to date unless invoiced, made if there
is none. -/
def ensureSitItem (ids : IdSupply) (shipmentId : ShipmentId) (now : Timestamp) (weight : Pounds)
    (sit : Sit) (days : Nat) (b : Basket) (code : String) : Basket :=
  if b.items.any (isSitItem sit code) then
    { b with items := modifyFirst (isSitItem sit code) (refreshStay sit weight days) b.items }
  else b.push (stayItem (b.nextId ids) shipmentId now weight sit days code)

/-- Both items of a SIT whose dates are known; nothing for any other. -/
def ensureSit (ids : IdSupply) (shipmentId : ShipmentId) (now : Timestamp) (weight : Pounds)
    (b : Basket) (sit : Sit) : Basket :=
  match sit.chargeableDays? with
  | none => b
  | some days =>
    [sitFirstDayCode, sitAdditionalDaysCode].foldl
      (ensureSitItem ids shipmentId now weight sit days) b

/-- The basket with the base items and the items of all stays, in current quantities. -/
def refreshed (t : RateTable) (ids : IdSupply) (shipmentId : ShipmentId) (now : Timestamp)
    (weight : Pounds) (miles : Miles) (sits : List Sit) (b : Basket) : Basket :=
  sits.foldl (ensureSit ids shipmentId now weight)
    ((b.addMissing t ids shipmentId now).refreshBase t weight miles)

end Basket
end Haulage
