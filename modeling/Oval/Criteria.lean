import Oval.Status

/-! # Criteria trees

A node groups children under an operator, points to a test, or points to another definition.  The
root of a definition's tree is always a group.
-/
namespace Oval

inductive Node
  | group (operator : Operator) (negate : Bool) (comment : Option String) (children : List Node)
  | criterion (testRef : String) (negate : Bool) (comment : Option String)
  | extend (definitionRef : String) (negate : Bool) (comment : Option String)
  deriving Inhabited

structure Criteria where
  operator : Operator := .and
  negate : Bool := false
  comment : Option String := none
  children : List Node := []
  deriving Inhabited

namespace Node

def negated : Node → Node
  | group operator _ comment children => group operator true comment children
  | criterion testRef _ comment => criterion testRef true comment
  | extend definitionRef _ comment => extend definitionRef true comment

mutual
/-- The definitions that the extend leaves name, in document order. -/
def extendRefs : Node → List String
  | group _ _ _ children => extendRefsOf children
  | criterion .. => []
  | extend definitionRef _ _ => [definitionRef]

def extendRefsOf : List Node → List String
  | [] => []
  | n :: r => extendRefs n ++ extendRefsOf r
end

theorem extendRefsOf_eq_flatMap (ns : List Node) : extendRefsOf ns = ns.flatMap extendRefs := by
  induction ns with
  | nil => rfl
  | cons n r ih => simp [extendRefsOf, ih]

end Node

namespace Criteria

def node (c : Criteria) : Node := .group c.operator c.negate c.comment c.children

def negated (c : Criteria) : Criteria := { c with negate := true }

def extendRefs (c : Criteria) : List String := c.node.extendRefs

end Criteria
end Oval
