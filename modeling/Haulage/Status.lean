/-! The statuses, actions and places of shipments, line items and storage in transit
(SIT), with the names they are written by. -/
namespace Haulage

inductive ShipmentStatus where
  | draft | submitted | awarded | accepted | approved | inTransit | delivered | completed | canceled
deriving DecidableEq, Inhabited

namespace ShipmentStatus

def all : List ShipmentStatus :=
  [draft, submitted, awarded, accepted, approved, inTransit, delivered, completed, canceled]

def name : ShipmentStatus → String
  | draft => "DRAFT"
  | submitted => "SUBMITTED"
  | awarded => "AWARDED"
  | accepted => "ACCEPTED"
  | approved => "APPROVED"
  | inTransit => "IN_TRANSIT"
  | delivered => "DELIVERED"
  | completed => "COMPLETED"
  | canceled => "CANCELED"

/-- Delivered shipments, and those closed out after delivery, can be priced. -/
def isPriceable (s : ShipmentStatus) : Bool := s = delivered ∨ s = completed

end ShipmentStatus

inductive LineItemLocation where
  | origin | destination | neither
deriving DecidableEq, Inhabited

namespace LineItemLocation

def all : List LineItemLocation := [origin, destination, neither]

def name : LineItemLocation → String
  | origin => "ORIGIN"
  | destination => "DESTINATION"
  | neither => "NEITHER"

end LineItemLocation

inductive LineItemStatus where
  | submitted | conditionallyApproved | approved
deriving DecidableEq, Inhabited

namespace LineItemStatus

def all : List LineItemStatus := [submitted, conditionallyApproved, approved]

def name : LineItemStatus → String
  | submitted => "SUBMITTED"
  | conditionallyApproved => "CONDITIONALLY_APPROVED"
  | approved => "APPROVED"

/-- The statuses that carry money. -/
def isPriceable (s : LineItemStatus) : Bool := s = conditionallyApproved ∨ s = approved

end LineItemStatus

inductive LineItemAction where
  | approve | conditionallyApprove
deriving DecidableEq

def LineItemAction.name : LineItemAction → String
  | approve => "approve"
  | conditionallyApprove => "conditionally approve"

inductive SitLocation where
  | origin | destination
deriving DecidableEq, Inhabited

namespace SitLocation

def all : List SitLocation := [origin, destination]

def name : SitLocation → String
  | origin => "ORIGIN"
  | destination => "DESTINATION"

/-- Where the line items of a SIT are done. -/
def lineItemLocation : SitLocation → LineItemLocation
  | origin => .origin
  | destination => .destination

end SitLocation

inductive SitStatus where
  | requested | approved | denied | inSit | released | delivered
deriving DecidableEq, Inhabited

namespace SitStatus

def all : List SitStatus := [requested, approved, denied, inSit, released, delivered]

def name : SitStatus → String
  | requested => "REQUESTED"
  | approved => "APPROVED"
  | denied => "DENIED"
  | inSit => "IN_SIT"
  | released => "RELEASED"
  | delivered => "DELIVERED"

/-- The goods are or have been in the warehouse. -/
def isOccupied (s : SitStatus) : Bool := s = inSit ∨ s = released ∨ s = delivered

end SitStatus

inductive SitAction where
  | approve | deny | placeIntoSit | deliver | release
deriving DecidableEq

def SitAction.name : SitAction → String
  | approve => "approve"
  | deny => "deny"
  | placeIntoSit => "place into SIT"
  | deliver => "deliver"
  | release => "release"

end Haulage
