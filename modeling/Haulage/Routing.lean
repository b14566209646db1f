import Haulage.Address
import Haulage.Duration
import Haulage.Error

/-! The distance between two addresses, asked of a planner that may fail or answer too
late. -/
namespace Haulage

/-- A planner's answer, and after how many milliseconds it comes. -/
structure PlannerReply where
  afterMs : Nat
  answer : Except Error Miles

/-- Driving distances. -/
abbrev Planner := (origin destination : Address) → PlannerReply

/-- Answers every request at once with the same mileage. -/
def Planner.fixed (miles : Miles) : Planner := fun _ _ => ⟨0, .ok miles⟩

/-- The planner's answer, if it comes within the limit. Every failure, a late answer
included, is `Error.distanceUnavailable`. -/
def Planner.distance (planner : Planner) (origin destination : Address) (limit : Duration) :
    Except Error Miles :=
  let reply := planner origin destination
  if limit.milliseconds < reply.afterMs then
    .error (.distanceUnavailable ("no answer within " ++ limit.shown))
  else match reply.answer with
    | .ok miles => .ok miles
    | .error (.distanceUnavailable reason) => .error (.distanceUnavailable reason)
    | .error e => .error (.distanceUnavailable e.message)

end Haulage
