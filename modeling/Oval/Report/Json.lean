import Oval.Json.Reader
import Oval.Json.Record
import Oval.Report

/-! # Reports in JSON -/
namespace Oval

open Json

def Status.ofJson? (v : Json) : Option Status := v.caseName?.bind (oneOf? Status.all Status.text)

def Severity.ofJson? (v : Json) : Option Severity :=
  v.caseName?.bind (oneOf? Severity.all Severity.text)

namespace Diagnostic

def ofJson? (v : Json) : Option Diagnostic := do
  match ← v.fields? ["level", "definition_id", "message"] with
  | [level, definitionId, message] =>
    some {
      severity := ← required Severity.ofJson? level
      definitionId := ← required string? definitionId
      message := ← required string? message }
  | _ => none

def toJson (d : Diagnostic) : Json :=
  record [("level", .ofString d.severity.text), ("definition_id", .ofString d.definitionId),
    ("message", .ofString d.message)]

end Diagnostic

namespace Moment

def fieldNames : List String := ["secs_since_epoch", "nanos_since_epoch"]

/-- Unlike other records a moment allows no unknown keys. -/
def hasKnownKeys : Json → Bool
  | .object members => members.all fun (k, _) => k.any fieldNames.contains
  | _ => true

def ofJson? (v : Json) : Option Moment := do
  if hasKnownKeys v then
    match ← v.fields? fieldNames with
    | [seconds, nanoseconds] =>
      ofParts? (← required word? seconds) (← required (natural? (Nat.pow 2 32)) nanoseconds)
    | _ => none
  else none

def toJson (m : Moment) : Json :=
  record [("secs_since_epoch", .ofNat m.seconds), ("nanos_since_epoch", .ofNat m.nanoseconds)]

end Moment

namespace Report

def ofJson? (v : Json) : Option Report := do
  match ← v.fields? ["id", "definition_id", "title", "status", "diagnostics", "evaluated_at"] with
  | [id, definitionId, title, status, diagnostics, evaluatedAt] =>
    some {
      id := ← required string? id
      definitionId := ← required string? definitionId
      title := ← required string? title
      status := ← required Status.ofJson? status
      diagnostics := ← required (list? Diagnostic.ofJson?) diagnostics
      evaluatedAt := ← required Moment.ofJson? evaluatedAt }
  | _ => none

def toJson (r : Report) : Json :=
  record [("id", .ofString r.id), ("definition_id", .ofString r.definitionId),
    ("title", .ofString r.title), ("status", .ofString r.status.text),
    ("diagnostics", .array (r.diagnostics.map Diagnostic.toJson)),
    ("evaluated_at", r.evaluatedAt.toJson)]

def ofText? (text : String) : Option Report := (Json.read? text).bind ofJson?

end Report
end Oval
