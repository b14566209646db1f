import Haulage.Pricing
import Haulage.Routing
import Haulage.Store
import Mathlib.Data.List.Forall2

/-! When a computation that may fail gives a result: what each of its steps gave. Two such
computations side by side meet the same fate if their steps do. -/
namespace Haulage

theorem bind_eq_ok {ε α β : Type} {x : Except ε α} {next : α → Except ε β} {b : β} :
    (x >>= next) = .ok b ↔ ∃ a, x = .ok a ∧ next a = .ok b := by
  cases x <;> simp [bind, Except.bind]

theorem bind_eq_error {ε α β : Type} {x : Except ε α} {next : α → Except ε β} {e : ε} :
    (x >>= next) = .error e ↔ x = .error e ∨ ∃ a, x = .ok a ∧ next a = .error e := by
  cases x <;> simp [bind, Except.bind]

/-- An error that the first step never has comes from the next. -/
theorem exists_of_bind_eq_error {ε α β : Type} {x : Except ε α} {next : α → Except ε β} {e : ε}
    (never : x ≠ .error e) (failed : (x >>= next) = .error e) :
    ∃ a, x = .ok a ∧ next a = .error e :=
  (bind_eq_error.1 failed).resolve_left never

theorem ok_bind {ε α β : Type} (a : α) (next : α → Except ε β) :
    ((.ok a : Except ε α) >>= next) = next a := rfl

theorem map_eq_ok {ε α β : Type} {x : Except ε α} {f : α → β} {b : β} :
    f <$> x = .ok b ↔ ∃ a, x = .ok a ∧ f a = b := by
  cases x <;> simp [Functor.map, Except.map]

/-- A list is mapped without an error exactly if each of its elements is. -/
theorem mapM_eq_ok {ε α β : Type} {f : α → Except ε β} {xs : List α} {ys : List β} :
    xs.mapM f = .ok ys ↔ List.Forall₂ (fun x y => f x = .ok y) xs ys := by
  induction xs generalizing ys with
  | nil => simp [pure, Except.pure, eq_comm]
  | cons x rest ih =>
    simp only [List.mapM_cons, bind_eq_ok, pure, Except.pure, Except.ok.injEq, ih,
      List.forall₂_cons_left_iff]
    constructor
    · rintro ⟨y, here, ys, there, rfl⟩
      exact ⟨y, ys, here, there, rfl⟩
    · rintro ⟨y, ys, here, there, rfl⟩
      exact ⟨y, here, ys, there, rfl⟩

theorem exists_mapM_eq_ok {ε α β : Type} {f : α → Except ε β} {xs : List α} :
    (∃ ys, xs.mapM f = .ok ys) ↔ ∀ x ∈ xs, ∃ y, f x = .ok y := by
  simp only [mapM_eq_ok]
  induction xs with
  | nil => simp
  | cons x rest ih =>
    rw [List.forall_mem_cons, ← ih]
    constructor
    · rintro ⟨ys, each⟩
      cases each with
      | cons here there => exact ⟨⟨_, here⟩, _, there⟩
    · rintro ⟨⟨y, here⟩, ys, there⟩
      exact ⟨y :: ys, .cons here there⟩

/-- Both computations fail with the same error, or both give a result and the results are
related. -/
inductive SameFate {ε α β : Type} (R : α → β → Prop) : Except ε α → Except ε β → Prop
  | error (e : ε) : SameFate R (.error e) (.error e)
  | ok {a : α} {b : β} : R a b → SameFate R (.ok a) (.ok b)

namespace SameFate
variable {ε α β γ δ : Type} {R : α → β → Prop} {S : γ → δ → Prop} {x : Except ε α}
  {y : Except ε β}

theorem bind {next : α → Except ε γ} {next' : β → Except ε δ} (first : SameFate R x y)
    (later : ∀ a b, x = .ok a → y = .ok b → R a b → SameFate S (next a) (next' b)) :
    SameFate S (x >>= next) (y >>= next') := by
  cases first with
  | error e => exact .error e
  | ok related => exact later _ _ rfl rfl related

theorem eq {y : Except ε α} (fate : SameFate (fun a b => b = a) x y) : y = x := by
  cases fate with
  | error e => rfl
  | ok same => rw [same]

/-- Computations that begin with the same step. -/
theorem after (x : Except ε α) {next : α → Except ε γ} {next' : α → Except ε δ}
    (later : ∀ a, x = .ok a → SameFate S (next a) (next' a)) :
    SameFate S (x >>= next) (x >>= next') := by
  cases x with
  | error e => exact .error e
  | ok a => exact later a rfl

end SameFate

/-- Both computations fail, be it with different errors, or both give a result and the results
are related. -/
inductive SameSuccess {ε α β : Type} (R : α → β → Prop) : Except ε α → Except ε β → Prop
  | error (e e' : ε) : SameSuccess R (.error e) (.error e')
  | ok {a : α} {b : β} : R a b → SameSuccess R (.ok a) (.ok b)

namespace SameSuccess
variable {ε α β γ δ : Type} {R : α → β → Prop} {S : γ → δ → Prop} {x : Except ε α}
  {y : Except ε β}

theorem bind {next : α → Except ε γ} {next' : β → Except ε δ} (first : SameSuccess R x y)
    (later : ∀ a b, R a b → SameSuccess S (next a) (next' b)) :
    SameSuccess S (x >>= next) (y >>= next') := by
  cases first with
  | error e e' => exact .error e e'
  | ok related => exact later _ _ related

theorem after (x : Except ε α) {next : α → Except ε γ} {next' : α → Except ε δ}
    (later : ∀ a, x = .ok a → SameSuccess S (next a) (next' a)) :
    SameSuccess S (x >>= next) (x >>= next') := by
  cases x with
  | error e => exact .error e e
  | ok a => exact later a rfl

theorem toOption_eq {y : Except ε α} (same : SameSuccess Eq x y) : x.toOption = y.toOption := by
  cases same with
  | error e e' => rfl
  | ok same => rw [same]

end SameSuccess

theorem toOption_eq_some {ε α : Type} {x : Except ε α} {a : α} :
    x.toOption = some a ↔ x = .ok a := by
  cases x <;> simp [Except.toOption]

theorem require_eq_ok {α : Type} {subject : Subject} {id : String} {found : Option α} {a : α} :
    require subject id found = .ok a ↔ found = some a := by
  cases found <;> simp [require]

theorem require_eq_error {α : Type} {subject : Subject} {id : String} {found : Option α}
    {e : Error} : require subject id found = .error e ↔ found = none ∧ e = .notFound subject id := by
  cases found <;> simp [require, eq_comm]

theorem ofStore_eq_ok {α : Type} {x : Except StoreError α} {a : α} :
    ofStore x = .ok a ↔ x = .ok a := by
  cases x <;> simp [ofStore]

theorem times_eq_ok {a b c : Decimal} : times a b = .ok c ↔ a.mul? b = some c := by
  unfold times
  cases a.mul? b <;> simp

theorem dividedBy_eq_ok {a b : Decimal} {divisor : Nat} :
    dividedBy a divisor = .ok b ↔ a.div? divisor = some b := by
  unfold dividedBy
  cases a.div? divisor <;> simp

/-- An answer within the limit counts. -/
theorem Planner.distance_eq_ok {planner : Planner} {origin destination : Address}
    {limit : Duration} {afterMs : Nat} {miles : Miles}
    (reply : planner origin destination = ⟨afterMs, .ok miles⟩)
    (inTime : afterMs ≤ limit.milliseconds) :
    planner.distance origin destination limit = .ok miles := by
  simp only [Planner.distance, reply, Nat.not_lt.2 inTime, if_false]

namespace Shipment

theorem fact_eq_ok {α : Type} {field text : String} {known : Option α} {a : α} :
    fact field text known = .ok a ↔ known = some a := by
  cases known <;> simp [fact]

theorem requireNetWeight_eq_ok {s : Shipment} {weight : Pounds} :
    s.requireNetWeight = .ok weight ↔ s.netWeight = some weight := fact_eq_ok

theorem requireBookDate_eq_ok {s : Shipment} {date : Date} :
    s.requireBookDate = .ok date ↔ s.bookDate = some date := fact_eq_ok

theorem requirePickupDate_eq_ok {s : Shipment} {date : Date} :
    s.requirePickupDate = .ok date ↔ s.requestedPickupDate = some date := fact_eq_ok

theorem requirePickupAddress_eq_ok {s : Shipment} {address : Address} :
    s.requirePickupAddress = .ok address ↔ s.pickupAddress = some address := fact_eq_ok

theorem requireDeliveryAddress_eq_ok {s : Shipment} {address : Address} :
    s.requireDeliveryAddress = .ok address ↔ s.deliveryAddress = some address := fact_eq_ok

end Shipment

namespace Store
variable {s : Store}

theorem loadShipment_eq_ok {id : ShipmentId} {shipment : Shipment} :
    s.loadShipment id = .ok shipment ↔ s.shipments.get? id = some shipment := require_eq_ok

theorem loadLineItem_eq_ok {id : LineItemId} {item : LineItem} :
    s.loadLineItem id = .ok item ↔ s.lineItems.get? id = some item := require_eq_ok

/-- Only what is there is erased. -/
theorem eraseFrom_eq_ok {e : Entity} {α : Type} {table table' : SortedMap (Id e) α} {id : Id e}
    {what : String} : eraseFrom table id what = .ok table' ↔
      (table.get? id).isSome ∧ table' = table.erase id := by
  unfold eraseFrom SortedMap.contains
  split
  · next present => simp [present, eq_comm]
  · next absent => simp [absent]

variable {s' : Store}

theorem deleteLineItem_eq_ok {id : LineItemId} : s.deleteLineItem id = .ok s' ↔
    (s.lineItems.get? id).isSome ∧ s' = { s with lineItems := s.lineItems.erase id } := by
  simp only [deleteLineItem, bind_eq_ok, eraseFrom_eq_ok, pure, Except.pure, Except.ok.injEq,
    and_assoc, exists_and_left, exists_eq_left, @eq_comm _ s']

theorem deleteDimensions_eq_ok {id : DimensionsId} : s.deleteDimensions id = .ok s' ↔
    (s.dimensions.get? id).isSome ∧ s' = { s with dimensions := s.dimensions.erase id } := by
  simp only [deleteDimensions, bind_eq_ok, eraseFrom_eq_ok, pure, Except.pure, Except.ok.injEq,
    and_assoc, exists_and_left, exists_eq_left, @eq_comm _ s']

theorem deleteAddress_eq_ok {id : AddressId} : s.deleteAddress id = .ok s' ↔
    (s.addresses.get? id).isSome ∧ s' = { s with addresses := s.addresses.erase id } := by
  simp only [deleteAddress, bind_eq_ok, eraseFrom_eq_ok, pure, Except.pure, Except.ok.injEq,
    and_assoc, exists_and_left, exists_eq_left, @eq_comm _ s']

theorem deleteSit_eq_ok {id : SitId} : s.deleteSit id = .ok s' ↔
    (s.sits.get? id).isSome ∧ s' = { s with sits := s.sits.erase id } := by
  simp only [deleteSit, bind_eq_ok, eraseFrom_eq_ok, pure, Except.pure, Except.ok.injEq,
    and_assoc, exists_and_left, exists_eq_left, @eq_comm _ s']

end Store
end Haulage
