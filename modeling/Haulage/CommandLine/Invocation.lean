import Haulage.CommandLine.Options
import Haulage.Quote

/-! The commands of the program: to price the base charges of a supposed shipment, and to
price a shipment of a dataset again. -/
namespace Haulage.CommandLine

inductive DiscountSource where
  | none
  | rate (value : Decimal)
  | dataset (file : String)
deriving DecidableEq

inductive Command where
  | verifyRates (reference : String) (request : QuoteRequest) (discount : DiscountSource)
  | recalculate (dataset : String) (shipment : ShipmentId) (miles : Miles)
      (deliver : Option Date) (output : Option String)
deriving DecidableEq

structure Invocation where
  verbosity : Nat
  config : Option String
  command : Command
deriving DecidableEq

/-- A 64-bit integer, with or without a sign. -/
def readInt64? (s : String) : Option Int64 := do
  match s.toList with
  | '-' :: ds => int64? (-(← natOfText? ds : Nat))
  | '+' :: ds => int64? (← natOfText? ds : Nat)
  | ds => int64? (← natOfText? ds : Nat)

def readMiles? (s : String) : Option Miles := do
  let n ← readInt64? s
  if 0 ≤ n.toInt ∧ n.toInt < twoTo 32 then some (UInt32.ofNat n.toInt.toNat) else none

def readFile? (s : String) : Option String := if s = "" then none else some s

/-- An option with the values that `read` can tell. -/
def option {α : Type} (name : String) (read : String → Option α) (short : Option Char := none) :
    OptionSpec :=
  { name, short, accepts := some fun s => (read s).isSome }

def sharedOptions : List OptionSpec :=
  [{ name := "verbose", short := some 'v' }, option "config" readFile? (some 'c')]

def verifyRatesOptions : List OptionSpec :=
  sharedOptions ++ [
    option "reference" readFile?, option "origin-zip" some, option "destination-zip" some,
    option "weight" readInt64?, option "book-date" Date.ofText?,
    option "pickup-date" Date.ofText?, option "miles" readMiles?,
    option "dataset" readFile?, option "discount" Decimal.ofText?]

def recalculateOptions : List OptionSpec :=
  sharedOptions ++ [
    option "dataset" readFile?, option "shipment" (Id.ofText? : String → Option ShipmentId),
    option "miles" readMiles?, option "deliver" Date.ofText?,
    option "output" readFile? (some 'o')]

/-- The command that options of `verify-rates` make. A dataset and a discount exclude
each other. -/
def verifyRates? (g : Given) : Option Command := do
  let request : QuoteRequest := {
    originZip := ← g.value? "origin-zip" some
    destinationZip := ← g.value? "destination-zip" some
    weight := ⟨← g.value? "weight" readInt64?⟩
    bookDate := ← g.value? "book-date" Date.ofText?
    pickupDate := ← g.value? "pickup-date" Date.ofText?
    miles := ← g.value? "miles" readMiles? }
  let reference ← g.value? "reference" readFile?
  let discount ← match g.value? "dataset" readFile?, g.value? "discount" Decimal.ofText? with
    | none, none => some DiscountSource.none
    | none, some rate => some (.rate rate)
    | some file, none => some (.dataset file)
    | some _, some _ => none
  return .verifyRates reference request discount

def recalculate? (g : Given) : Option Command := do
  return .recalculate (← g.value? "dataset" readFile?) (← g.value? "shipment" Id.ofText?)
    (← g.value? "miles" readMiles?) (g.value? "deliver" Date.ofText?)
    (g.value? "output" readFile?)

namespace Invocation

/-- An invocation of one command. Shared options may stand on either side of its name;
those behind it win. -/
def ofCommand (outer : Given) (specs : List OptionSpec) (command? : Given → Option Command)
    (args : List String) : Except Stop Invocation := do
  let (g, words) ← readOptions specs {} args
  let g ← g.settle
  let outer ← outer.settle
  match words, command? g with
  | [], some command =>
    let count (g : Given) := g.switches.count "verbose"
    return {
      command
      config := (g.value? "config" readFile?).or (outer.value? "config" readFile?)
      verbosity := if count g = 0 then count outer else count g }
  | _, _ => throw .usage

/-- What `help` explains: the program, or one command. -/
def help (topics : List String) : Stop :=
  match topics with
  | [] | ["verify-rates"] | ["recalculate"] | ["help"] => .help
  | _ => .usage

def ofArgs (args : List String) : Except Stop Invocation := do
  let (g, words) ← readOptions sharedOptions {} args
  match words with
  | "verify-rates" :: args => ofCommand g verifyRatesOptions verifyRates? args
  | "recalculate" :: args => ofCommand g recalculateOptions recalculate? args
  | "help" :: topics => throw (help topics)
  | _ => throw .usage

def inputs (i : Invocation) : List String :=
  i.config.toList ++ match i.command with
    | .verifyRates reference _ (.dataset file) => [reference, file]
    | .verifyRates reference _ _ => [reference]
    | .recalculate dataset .. => [dataset]

end Invocation
end Haulage.CommandLine
