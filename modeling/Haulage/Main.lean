import Haulage.CommandLine.Run
import Std.Time.DateTime.Timestamp

/-! The program: it reads the files that an invocation names, lets `Surroundings.run` say
what to do, prints, writes and exits. -/
namespace Haulage.CommandLine

def usageText : String := "Usage: haulage [-v]... [-c FILE] COMMAND

Commands:
  verify-rates  Price every base charge for a supposed shipment
      --reference FILE --origin-zip ZIP --destination-zip ZIP --weight POUNDS
      --book-date DATE --pickup-date DATE --miles MILES
      [--dataset FILE | --discount RATE]
  recalculate   Price a shipment of a dataset again and print the report
      --dataset FILE --shipment ID --miles MILES [--deliver DATE] [-o FILE]

Options:
  -v, --verbose  More log output
  -c, --config   Configuration file
  -h, --help     This text"

/-- A file with its text, `none` if it cannot be read. -/
def readFile (name : String) : IO (Option (String × String)) := do
  try return some (name, ← IO.FS.readFile name) catch _ => return none

def readFiles (names : List String) : IO Files := do
  let texts ← names.filterMapM readFile
  return fun name => texts.lookup name

def readEnvironment : IO Environment := do
  let settings ← Config.settings.filterMapM fun name => do
    return (← IO.getEnv name).map (name, ·)
  return fun name => settings.lookup name

/-- Identifiers from a random one upwards. -/
def freshIds : IO IdSupply := do
  let bytes ← IO.getRandomBytes 16
  let seed := bytes.foldl (fun n b => 256 * n + b.toNat) 0
  return fun n => Uuid.version4 (seed + n)

def clock : IO Timestamp := do
  let now ← Std.Time.Timestamp.now
  let seconds := now.toSecondsSinceUnixEpoch.val
  match Timestamp.of? (seconds / 86400) (seconds % 86400).toNat now.val.nano.val.toNat with
  | some t => return t
  | none => throw (.userError "the clock is out of range")

def perform (o : Outcome) : IO UInt32 := do
  if let some report := o.report then IO.println report.toText
  if let some e := o.failure then IO.eprintln ("Error: " ++ e.message)
  if let some (name, text) := o.file then
    try IO.FS.writeFile name text
    catch e =>
      IO.eprintln (s!"Error: {Outcome.unwritable name}: {e}")
      return Outcome.failed
  return o.exitCode

end Haulage.CommandLine

open Haulage Haulage.CommandLine in
def main (args : List String) : IO UInt32 := do
  match Invocation.ofArgs args with
  | .error stop =>
    if stop = .help then IO.println usageText else IO.eprintln usageText
    return stop.exitCode
  | .ok invocation =>
    let surroundings : Surroundings := {
      files := ← readFiles invocation.inputs
      environment := ← readEnvironment
      ids := ← freshIds
      now := ← clock }
    perform (surroundings.run invocation)
