import Oval.Settings
import Oval.Toml.Record
import Oval.Trace

/-! # Configuration

A configuration is read from a file, changed by environment variables and validated.  What a file
or the environment leaves out has a default.
-/
namespace Oval

structure General where
  logLevel : String := "info"
  logFormat : String := "json"
  deriving DecidableEq, Repr, Inhabited

structure Config where
  general : General := {}
  oval : Settings := {}
  deriving DecidableEq, Repr, Inhabited

abbrev Environment := String → Option String

/-- What is found at the path of a file. -/
inductive File
  | missing (path : String)
  | directory
  | bytes (content : ByteArray)

def File.read : File → Except Failure String
  | missing path => .error (.configNotFound path)
  | directory => .error (.io "Is a directory (os error 21)")
  | bytes content =>
    match String.fromUTF8? content with
    | some text => .ok text
    | none => .error (.io "stream did not contain valid UTF-8")

namespace General

def levels : List String := ["trace", "debug", "info", "warn", "error"]

def formats : List String := ["json", "pretty"]

open Toml in
def ofToml? (v : Toml) : Option General := do
  match ← v.fields? ["log_level", "log_format"] with
  | [logLevel, logFormat] =>
    some {
      logLevel := ← defaulted "info" string? logLevel
      logFormat := ← defaulted "json" string? logFormat }
  | _ => none

def toJson (g : General) : Json :=
  .record [("log_level", .ofString g.logLevel), ("log_format", .ofString g.logFormat)]

end General

open Toml in
def Settings.ofToml? (v : Toml) : Option Settings := do
  match ← v.fields? ["cache_results", "max_diagnostics"] with
  | [cacheResults, maxDiagnostics] =>
    some {
      cacheResults := ← defaulted true bool? cacheResults
      maxDiagnostics := ← defaulted 1000 word? maxDiagnostics }
  | _ => none

namespace Config

open Toml in
def ofToml? (v : Toml) : Option Config := do
  match ← v.fields? ["general", "oval"] with
  | [general, oval] =>
    some {
      general := ← defaulted {} General.ofToml? general
      oval := ← defaulted {} Settings.ofToml? oval }
  | _ => none

def toJson (c : Config) : Json :=
  .record [("general", c.general.toJson), ("oval", c.oval.toJson)]

def ofText (text : String) : Except Failure Config :=
  match (Toml.read? text).bind fun entries => ofToml? (.table .header entries) with
  | some c => .ok c
  | none => .error (.configParse "TOML parse error")

def oneOfReason (choices : List String) : String :=
  "must be one of: " ++ String.intercalate ", " choices

/-- The first value that is not allowed, by field and reason. -/
def fault? (c : Config) : Option (String × String) :=
  if !General.levels.contains c.general.logLevel then
    some ("general.log_level", oneOfReason General.levels)
  else if !General.formats.contains c.general.logFormat then
    some ("general.log_format", oneOfReason General.formats)
  else if !c.oval.isValid then some ("oval.max_diagnostics", Settings.limitReason)
  else none

def validate (c : Config) : Except Failure Unit :=
  match c.fault? with
  | some (field, reason) => .error (.configValue field reason)
  | none => .ok ()

def overrideText (env : Environment) (key : String) (present : String) : String :=
  (env key).getD present

/-- The value of a variable if it can be read, or else the present one; a value that cannot be read
is reported. -/
def overrideWith {α : Type} (expected : Expected) (read : String → Option α) (env : Environment)
    (key : String) (present : α) : Traced α :=
  match env key with
  | none => pure present
  | some value =>
    match read value with
    | some a => pure a
    | none => do
      Traced.report (.overrideIgnored expected key value)
      pure present

def readBool (s : String) : Option Bool :=
  if s = "true" then some true else if s = "false" then some false else none

/-- The configuration with the values of the environment in place of its own. -/
def override (c : Config) (env : Environment) : Traced Config := do
  let logLevel := overrideText env "OVALGUARD_GENERAL_LOG_LEVEL" c.general.logLevel
  let logFormat := overrideText env "OVALGUARD_GENERAL_LOG_FORMAT" c.general.logFormat
  let cacheResults ← overrideWith .bool readBool env "OVALGUARD_OVAL_CACHE_RESULTS"
    c.oval.cacheResults
  let maxDiagnostics ← overrideWith .word (fun s => Text.word? s.toList) env
    "OVALGUARD_OVAL_MAX_DIAGNOSTICS" c.oval.maxDiagnostics
  pure { general := { logLevel, logFormat }, oval := { cacheResults, maxDiagnostics } }

/-- The configuration in a file, which must be valid as it stands. -/
def ofFile (f : File) : Except Failure Config := do
  let c ← ofText (← f.read)
  c.validate
  pure c

/-- The configuration in a file after the overrides of the environment, valid before and after. -/
def load (f : File) (env : Environment) : Traced (Except Failure Config) :=
  match ofFile f with
  | .error e => pure (.error e)
  | .ok c => do
    let c ← c.override env
    pure (c.validate.map fun _ => c)

end Config
end Oval
