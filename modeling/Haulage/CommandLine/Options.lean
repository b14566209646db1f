import Haulage.Text

/-! Options on a command line: `--name value`, `--name=value`, and short ones that may
stand together behind one hyphen. They are read from the left, so that a request for
help counts unless something before it is wrong. A value that is an argument of its own
is looked at when the next option comes, or else when the whole command has been read. -/
namespace Haulage.CommandLine

structure OptionSpec where
  name : String
  short : Option Char := none
  /-- The values that it takes, `none` for a switch. -/
  accepts : Option (String → Bool) := none

/-- Why there is nothing to run. -/
inductive Stop where
  | help
  | usage
deriving DecidableEq

structure Given where
  /-- Names with values, each name once. -/
  values : List (String × String) := []
  switches : List String := []
  /-- The last option, if its value has not been looked at yet. -/
  unsettled : Option (OptionSpec × String) := none

namespace Given

def take (g : Given) (spec : OptionSpec) (value : String) : Except Stop Given :=
  if spec.accepts.any (· value) ∧ (g.values.lookup spec.name).isNone then
    .ok { g with values := (spec.name, value) :: g.values }
  else .error .usage

/-- Looks at the value that is still open. -/
def settle (g : Given) : Except Stop Given :=
  match g.unsettled with
  | none => .ok g
  | some (spec, value) => { g with unsettled := none }.take spec value

def switchOn (g : Given) (name : String) : Given := { g with switches := name :: g.switches }

/-- What a value says, where the option was given. -/
def value? {α : Type} (g : Given) (name : String) (read : String → Option α) : Option α :=
  (g.values.lookup name).bind read

end Given

/-- No option: the argument does not begin with a hyphen, or is nothing else. -/
def isWord (arg : String) : Bool := arg = "-" || arg.toList.head? ≠ some '-'

/-- A long name, and the value behind an equals sign. -/
def splitValue (cs : List Char) : String × Option String :=
  let name := cs.takeWhile (· ≠ '=')
  (String.ofList name, (cs.drop name.length).tail?.map String.ofList)

/-- Short options behind one hyphen: the options given, and the last one if its value is
still to come. The value may follow at once, or behind an equals sign. -/
def readShort (specs : List OptionSpec) (g : Given) :
    List Char → Except Stop (Given × Option OptionSpec)
  | [] => .ok (g, none)
  | c :: cs =>
    match specs.find? (·.short = some c) with
    | none => .error (if c = 'h' then .help else .usage)
    | some spec =>
      if spec.accepts.isNone then readShort specs (g.switchOn spec.name) cs
      else match cs with
        | [] => .ok (g, some spec)
        | '=' :: value | value => do return (← g.take spec (String.ofList value), none)

/-- One long option; the option itself if its value is still to come. -/
def readLong (specs : List OptionSpec) (g : Given) (cs : List Char) :
    Except Stop (Given × Option OptionSpec) :=
  let (name, value) := splitValue cs
  match specs.find? (·.name = name) with
  | none => .error (if name = "help" ∧ value = none then .help else .usage)
  | some spec =>
    match spec.accepts, value with
    | none, none => .ok (g.switchOn name, none)
    | none, some _ => .error .usage
    | some _, none => .ok (g, some spec)
    | some _, some value => do return (← g.take spec value, none)

def readOption (specs : List OptionSpec) (g : Given) (arg : String) :
    Except Stop (Given × Option OptionSpec) := do
  let g ← g.settle
  match arg.toList with
  | '-' :: '-' :: name => readLong specs g name
  | cs => readShort specs g cs.tail

/-- The options in front, and the arguments from the first word on. Two hyphens end the
options. -/
def readOptions (specs : List OptionSpec) (g : Given) :
    List String → Except Stop (Given × List String)
  | [] => .ok (g, [])
  | arg :: rest =>
    if arg = "--" then if rest = [] then .ok (g, []) else .error .usage
    else if isWord arg then .ok (g, arg :: rest)
    else match readOption specs g arg with
      | .error stop => .error stop
      | .ok (g, none) => readOptions specs g rest
      | .ok (g, some spec) =>
        match rest with
        | [] => .error .usage
        | value :: rest =>
          if isWord value then readOptions specs { g with unsettled := some (spec, value) } rest
          else .error .usage

end Haulage.CommandLine
