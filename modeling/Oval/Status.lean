/-! # Statuses and their combination

A criteria node, a criterion and a definition evaluate to a status.  Only two of the five are
decided; negation exchanges those two and leaves the rest alone.  `Operator.combine` ranks the
statuses of the children: the decisive value first, then an error, then an undecided status.
-/
namespace Oval

inductive Status
  | holds
  | fails
  | error
  | unknown
  | notEvaluated
  deriving DecidableEq, Repr, Inhabited

namespace Status

def text : Status → String
  | holds => "true"
  | fails => "false"
  | error => "error"
  | unknown => "unknown"
  | notEvaluated => "not_evaluated"

def all : List Status := [holds, fails, error, unknown, notEvaluated]

def ofBool (b : Bool) : Status := if b then holds else fails

/-- Exchanges the two decided statuses if `negate` is set. -/
def negateIf (negate : Bool) : Status → Status
  | holds => if negate then fails else holds
  | fails => if negate then holds else fails
  | s => s

@[simp] theorem negateIf_false (s : Status) : s.negateIf false = s := by cases s <;> rfl

@[simp] theorem negateIf_negateIf (a b : Bool) (s : Status) :
    (s.negateIf a).negateIf b = s.negateIf (a ^^ b) := by
  cases a <;> cases b <;> cases s <;> rfl

/-- Neither decided nor an error. -/
def isUndecided : Status → Bool
  | unknown | notEvaluated => true
  | _ => false

end Status

inductive Operator
  | and
  | or
  deriving DecidableEq, Repr, Inhabited

namespace Operator

def text : Operator → String
  | and => "AND"
  | or => "OR"

def all : List Operator := [and, or]

/-- The status of one child that settles the whole node. -/
def dominant : Operator → Status
  | and => .fails
  | or => .holds

/-- The status of a node none of whose children settles or disturbs it. -/
def fallback : Operator → Status
  | and => .holds
  | or => .fails

/-- The dominant status if a child has it, else an error if a child has one, else unknown if a
child is undecided, else the fallback. -/
def combine (op : Operator) (children : List Status) : Status :=
  if children.contains op.dominant then op.dominant
  else if children.contains .error then .error
  else if children.any Status.isUndecided then .unknown
  else op.fallback

theorem combine_ne_notEvaluated (op : Operator) (children : List Status) :
    op.combine children ≠ .notEvaluated := by
  unfold combine
  cases op <;> split <;> try split
  all_goals try split
  all_goals simp [dominant, fallback]

end Operator
end Oval
