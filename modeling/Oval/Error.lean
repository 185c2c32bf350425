import Oval.Evr.Notation
import Oval.Kind

/-! # Errors

`AssessmentError` holds what can go wrong while documents are read and tests are evaluated;
`Failure` is the coarser classification that the surrounding program reports.
-/
namespace Oval

inductive AssessmentError
  | evr (cause : EvrError)
  | danglingReference (entity : Entity) (id : String)
  | kindMismatch (testId : String) (entity : Entity) (id : String) (expected actual : Kind)
  | invalidEntity (entity : Entity) (id reason : String)
  | extendCycle (id : String)
  | unknownOperation (operation : String)
  | pattern (source reason : String)
  | inventory (text : String)
  | documentParse (text : String)
  | config (field reason : String)
  deriving DecidableEq, Repr

namespace AssessmentError

def message : AssessmentError → String
  | evr cause => "evr comparison error: " ++ cause.message
  | danglingReference entity id => "unresolved " ++ entity.text ++ " reference: " ++ id
  | kindMismatch testId entity id expected actual =>
    "kind mismatch: test '" ++ testId ++ "' is " ++ expected.text ++ " but " ++ entity.text ++
      " '" ++ id ++ "' is " ++ actual.text
  | invalidEntity entity id reason => "invalid " ++ entity.text ++ " '" ++ id ++ "': " ++ reason
  | extendCycle id => "definition '" ++ id ++ "' is part of an extend_definition cycle"
  | unknownOperation operation => "unknown text operation '" ++ operation ++ "'"
  | pattern source reason => "pattern error: '" ++ source ++ "': " ++ reason
  | inventory text => "inventory error: " ++ text
  | documentParse text => "document parse error: " ++ text
  | config field reason => "config error: " ++ field ++ ": " ++ reason

end AssessmentError

inductive Failure
  | configNotFound (path : String)
  | configParse (reason : String)
  | configValue (field reason : String)
  | document (text : String)
  | unresolvedReference (text : String)
  | comparison (text : String)
  | inventory (text : String)
  | logging (text : String)
  | io (text : String)
  deriving DecidableEq, Repr

namespace Failure

def message : Failure → String
  | configNotFound path => "config error: config file not found: " ++ path
  | configParse reason => "config error: failed to parse config: " ++ reason
  | configValue field reason =>
    "config error: invalid config value for '" ++ field ++ "': " ++ reason
  | document text => "evaluation error: document load failed: " ++ text
  | unresolvedReference text => "evaluation error: unresolved reference: " ++ text
  | comparison text => "evaluation error: version comparison failed: " ++ text
  | inventory text => "evaluation error: inventory lookup failed: " ++ text
  | logging text => "logging error: " ++ text
  | io text => "io error: " ++ text

end Failure

/-- How the surrounding program reports the error.  An error without a class of its own counts as
a fault of the document and keeps its whole message. -/
def AssessmentError.toFailure (e : AssessmentError) : Failure :=
  match e with
  | config field reason => .configValue field reason
  | documentParse text => .document text
  | danglingReference entity id => .unresolvedReference (entity.text ++ " " ++ id)
  | evr cause => .comparison cause.message
  | inventory text => .inventory text
  | kindMismatch .. | invalidEntity .. | extendCycle .. | unknownOperation .. | pattern .. =>
    .document e.message

end Oval
