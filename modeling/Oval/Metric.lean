import Oval.Kind
import Oval.Status

/-! # Metrics

The counters and the histogram that the library feeds.  A `Metric` is one increment of one of
them, with its labels; a `Family` is the metric without labels, as it is described.
-/
namespace Oval

inductive Family
  | definitionsEvaluated
  | definitionsCached
  | testsEvaluated
  | evrComparisons
  | diagnosticsRecorded
  | evaluationDuration
  deriving DecidableEq, Repr

namespace Family

def all : List Family :=
  [definitionsEvaluated, definitionsCached, testsEvaluated, evrComparisons, diagnosticsRecorded,
    evaluationDuration]

def name : Family → String
  | definitionsEvaluated => "ovalguard_oval_definitions_evaluated_total"
  | definitionsCached => "ovalguard_oval_definitions_cached_total"
  | testsEvaluated => "ovalguard_oval_tests_evaluated_total"
  | evrComparisons => "ovalguard_oval_evr_comparisons_total"
  | diagnosticsRecorded => "ovalguard_oval_diagnostics_recorded_total"
  | evaluationDuration => "ovalguard_oval_evaluation_duration_seconds"

def description : Family → String
  | definitionsEvaluated => "Total number of OVAL definitions evaluated, by final status"
  | definitionsCached => "Total number of definition evaluations served from a finalized outcome"
  | testsEvaluated => "Total number of OVAL tests evaluated, by kind and result"
  | evrComparisons => "Total number of epoch:version-release comparisons performed"
  | diagnosticsRecorded => "Total number of diagnostic messages recorded during evaluation"
  | evaluationDuration => "Time to evaluate a single top-level definition in seconds"

/-- Whether the values are recorded one by one instead of being added up. -/
def isHistogram : Family → Bool
  | evaluationDuration => true
  | _ => false

end Family

inductive Metric
  | definitionEvaluated (status : Status)
  | definitionCached
  | testEvaluated (kind : Kind) (success : Bool)
  | evrCompared (success : Bool)
  | diagnosticRecorded
  | evaluationTimed
  deriving DecidableEq, Repr

namespace Metric

def family : Metric → Family
  | definitionEvaluated _ => .definitionsEvaluated
  | definitionCached => .definitionsCached
  | testEvaluated .. => .testsEvaluated
  | evrCompared _ => .evrComparisons
  | diagnosticRecorded => .diagnosticsRecorded
  | evaluationTimed => .evaluationDuration

def resultText (success : Bool) : String := if success then "success" else "failure"

def labels : Metric → List (String × String)
  | definitionEvaluated status => [("status", status.text)]
  | testEvaluated kind success => [("kind", kind.text), ("result", resultText success)]
  | evrCompared success => [("result", resultText success)]
  | definitionCached | diagnosticRecorded | evaluationTimed => []

/-- The name with the labels in braces, if there are any. -/
def key (m : Metric) : String :=
  match m.labels with
  | [] => m.family.name
  | ls =>
    let body := String.intercalate "," (ls.map fun (k, v) => k ++ "=" ++ v)
    m.family.name ++ "\x7b" ++ body ++ "\x7d"

end Metric
end Oval
