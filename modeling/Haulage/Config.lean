import Haulage.Pricing
import Haulage.Selection
import Haulage.Text.Quoted
import Haulage.Toml.Document

/-! The files that a run can read and the settings of its environment, and the
configuration that comes of them: defaults, overlaid by a TOML file, overlaid by the
environment. -/
namespace Haulage

/-- The texts of files by name, `none` for one that cannot be read. -/
abbrev Files := String → Option String

def Files.read (files : Files) (name : String) : Except Error String :=
  match files name with
  | some text => .ok text
  | none => .error (.config (.unreadable name))

/-- Settings by name. -/
abbrev Environment := String → Option String

structure Config where
  /-- How long a planner may take for one distance. -/
  distanceTimeout : Duration := .fiveSeconds
  codeOfService : String := defaultCodeOfService
  logLevel : String := "info"
  linehaulCode : String := defaultLinehaulCode
deriving DecidableEq, Inhabited

namespace Config

/-- A key that holds a string, if it is there at all. -/
def string? (ms : Toml.Members) (key : String) (default : String) : Option String :=
  match ms.lookup key with
  | none => some default
  | some (.text s) => some s
  | some _ => none

/-- The configuration that a TOML document gives. Keys it does not know are passed
over. -/
def ofToml (text : String) : Except Error Config :=
  let read : Option Config := do
    let ms ← Toml.document? text
    let timeout ← match ms.lookup "distance_timeout" with
      | none => some Duration.fiveSeconds
      | some (.text s) => Duration.ofText? s
      | some _ => none
    return {
      distanceTimeout := timeout
      codeOfService := ← string? ms "code_of_service" defaultCodeOfService
      logLevel := ← string? ms "log_level" "info"
      linehaulCode := ← string? ms "linehaul_code" defaultLinehaulCode }
  match read with
  | some c => .ok c
  | none => .error (.config .invalidToml)

def timeoutSetting : String := "HHG_PRICING_DISTANCE_TIMEOUT"
def codeOfServiceSetting : String := "HHG_PRICING_CODE_OF_SERVICE"
def logLevelSetting : String := "HHG_PRICING_LOG_LEVEL"
def linehaulCodeSetting : String := "HHG_PRICING_LINEHAUL_CODE"

def settings : List String :=
  [timeoutSetting, codeOfServiceSetting, logLevelSetting, linehaulCodeSetting]

/-- What the environment sets takes the place of what is there. -/
def overlay (c : Config) (env : Environment) : Except Error Config := do
  let timeout ← match env timeoutSetting with
    | none => pure c.distanceTimeout
    | some s =>
      match Duration.ofText? s with
      | some d => pure d
      | none => throw (.config (.notADuration timeoutSetting (Quoted.ofText s)))
  return {
    distanceTimeout := timeout
    codeOfService := (env codeOfServiceSetting).getD c.codeOfService
    logLevel := (env logLevelSetting).getD c.logLevel
    linehaulCode := (env linehaulCodeSetting).getD c.linehaulCode }

def validate (c : Config) : Except Error Unit :=
  if c.distanceTimeout.isZero then .error (.config .zeroTimeout)
  else if isBlankText c.codeOfService then .error (.config (.blank "code_of_service"))
  else if isBlankText c.linehaulCode then .error (.config (.blank "linehaul_code"))
  else .ok ()

def load (files : Files) (path : Option String) (env : Environment) : Except Error Config := do
  let c ← match path with
    | some name => ofToml (← files.read name)
    | none => pure {}
  let c ← c.overlay env
  c.validate
  return c

end Config

/-- The level of log output that `verbosity` asks for: the base level, "debug", and from
2 on "trace". -/
def logLevel (base : String) : (verbosity : Nat) → String
  | 0 => base
  | 1 => "debug"
  | _ => "trace"

end Haulage
