import Haulage.CommandLine.Invocation
import Haulage.Dataset
import Haulage.Wire.Reports

/-! What a run of the program does, as a value: the report it prints, the file it writes
and the error it ends with. The outer layer only carries it out. -/
namespace Haulage.CommandLine

structure Outcome where
  /-- Printed first, if there is one. -/
  report : Option Json := none
  /-- Name and text of the file written after that. -/
  file : Option (String × String) := none
  failure : Option Error := none

namespace Outcome

def succeeded : UInt32 := 0
def failed : UInt32 := 1

/-- Nothing but an error, if there is one. -/
def ofExcept : Except Error Outcome → Outcome
  | .ok o => o
  | .error e => { failure := some e }

def exitCode (o : Outcome) : UInt32 := if o.failure.isNone then succeeded else failed

def unwritable (name : String) : String := "Failed to write " ++ name

end Outcome

def Stop.exitCode : Stop → UInt32
  | help => 0
  | usage => 2

/-- What a run gets from around it. -/
structure Surroundings where
  files : Files
  environment : Environment
  ids : IdSupply
  now : Timestamp

namespace Surroundings

def discount (w : Surroundings) (config : Config) (rates : RateTable) (request : QuoteRequest) :
    DiscountSource → Except Error DiscountRate
  | .none => .ok .full
  | .rate value => DiscountRate.ofDecimal value
  | .dataset file => do
    let (_, store) ← (← Dataset.load w.files file).parts
    let selector : Selector := { rates, codeOfService := config.codeOfService }
    let key ← selector.groupingKeyFor request.shipment
    let performance ← store.selectCarrier key request.bookDate request.pickupDate
    return performance.linehaulRate

def verifyRates (w : Surroundings) (config : Config) (reference : String)
    (request : QuoteRequest) (source : DiscountSource) : Except Error Outcome := do
  let rates ← RateTable.load w.files reference
  let discount ← w.discount config rates request source
  let calculator : Calculator := { rates, linehaulCode := config.linehaulCode }
  let quote ← calculator.quote request discount w.now
  return { report := some (toJson quote) }

/-- Prices a shipment of a dataset again. The updated dataset keeps the reference tables
as they are in the file. -/
def recalculate (w : Surroundings) (config : Config) (dataset : String) (shipment : ShipmentId)
    (miles : Miles) (deliver : Option Date) (output : Option String) : Except Error Outcome := do
  let given ← Dataset.load w.files dataset
  let (rates, store) ← given.parts
  let recalculator : Recalculator := {
    calculator := { rates, linehaulCode := config.linehaulCode }
    selector := { rates, codeOfService := config.codeOfService }
    planner := .fixed miles
    distanceTimeout := config.distanceTimeout }
  let (report, store) ← match deliver with
    | some date => recalculator.deliverAndPrice w.ids w.now shipment date store
    | none => recalculator.recalculate w.ids w.now shipment store
  let updated : Dataset := { given with records := store.snapshot }
  return {
    report := some (toJson report)
    file := output.map (·, updated.toText) }

/-- Runs an invocation: its configuration first, then its command. -/
def run (w : Surroundings) (i : Invocation) : Outcome :=
  .ofExcept do
    let config ← Config.load w.files i.config w.environment
    match i.command with
    | .verifyRates reference request source => w.verifyRates config reference request source
    | .recalculate dataset shipment miles deliver output =>
      w.recalculate config dataset shipment miles deliver output

end Surroundings
end Haulage.CommandLine
