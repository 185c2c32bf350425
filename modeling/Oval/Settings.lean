import Oval.Error
import Oval.Json.Reader
import Oval.Json.Record

/-! # Settings of an evaluator -/
namespace Oval

/-- Whether outcomes are reused, and how many diagnostics a report keeps. -/
structure Settings where
  cacheResults : Bool := true
  maxDiagnostics : Nat := 1000
  deriving DecidableEq, Repr, Inhabited

namespace Settings

/-- The largest number of diagnostics that may be asked for. -/
def diagnosticsLimit : Nat := 100000

def limitReason : String := "must be 1-100000"

def isValid (s : Settings) : Bool := 0 < s.maxDiagnostics && s.maxDiagnostics ≤ diagnosticsLimit

def validate (s : Settings) : Except AssessmentError Unit :=
  if s.isValid then .ok () else .error (.config "max_diagnostics" limitReason)

def ofParts (cacheResults : Option Bool) (maxDiagnostics : Option Nat) : Settings where
  cacheResults := cacheResults.getD true
  maxDiagnostics := maxDiagnostics.getD 1000

def build (cacheResults : Option Bool) (maxDiagnostics : Option Nat) :
    Except AssessmentError Settings := do
  let s := ofParts cacheResults maxDiagnostics
  s.validate
  pure s

open Json in
def ofJson? (v : Json) : Option Settings := do
  match ← v.fields? ["cache_results", "max_diagnostics"] with
  | [cacheResults, maxDiagnostics] =>
    some {
      cacheResults := ← required bool? cacheResults
      maxDiagnostics := ← required word? maxDiagnostics }
  | _ => none

def toJson (s : Settings) : Json :=
  .record [("cache_results", .bool s.cacheResults), ("max_diagnostics", .ofNat s.maxDiagnostics)]

def ofText? (text : String) : Option Settings := (Json.read? text).bind ofJson?

end Settings
end Oval
