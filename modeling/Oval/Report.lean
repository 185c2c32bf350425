import Oval.Diagnostic
import Oval.Status

/-! # Reports

What a top-level evaluation hands out: the status of a definition with its diagnostics, an
identifier of the report and the time of the evaluation.
-/
namespace Oval

/-- Seconds and nanoseconds since the epoch, the nanoseconds below a second. -/
structure Moment where
  seconds : Nat
  nanoseconds : Nat
  deriving DecidableEq, Repr

namespace Moment

def epoch : Moment := ⟨0, 0⟩

def nanosecondsPerSecond : Nat := 1000000000

/-- The moment with whole seconds carried over, if its second count fits 63 bits. -/
def ofParts? (seconds nanoseconds : Nat) : Option Moment :=
  let total := seconds + nanoseconds / nanosecondsPerSecond
  if total < Nat.pow 2 63 then some ⟨total, nanoseconds % nanosecondsPerSecond⟩ else none

end Moment

structure Finding where
  definitionId : String
  title : String
  status : Status
  diagnostics : List Diagnostic
  deriving DecidableEq, Repr

namespace Finding

def errorCount (f : Finding) : Nat := Diagnostic.count .error f.diagnostics

def warningCount (f : Finding) : Nat := Diagnostic.count .warning f.diagnostics

end Finding

/-- A finding under an identifier of its own, with the time at which it was made. -/
structure Report extends Finding where
  id : String
  evaluatedAt : Moment
  deriving DecidableEq, Repr

namespace Report

def shortId (r : Report) : String := String.ofList (r.id.toList.take 8)

def text (r : Report) : String :=
  "EvaluationResult[" ++ r.shortId ++ "] definition=" ++ r.definitionId ++ " status=" ++
    r.status.text ++ " errors=" ++ toString r.errorCount ++ " warnings=" ++ toString r.warningCount

end Report
end Oval
