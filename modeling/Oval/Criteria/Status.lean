import Oval.Criteria

/-! # The status of a criteria tree

A tree is evaluated from its leaves: `Leaves` says what each kind of leaf answers, in any monad.
Every leaf is asked, in document order, whatever the others answered.
-/
namespace Oval

/-- The answers to what the status of a tree depends on. -/
structure Leaves (m : Type → Type) where
  /-- The status of a group without children, which is not decided. -/
  childless : m Status
  criterion : (testRef : String) → m Status
  extend : (definitionRef : String) → m Status

namespace Node

variable {m : Type → Type} [Monad m] (leaves : Leaves m)

mutual
/-- The status of the node after its own negation. -/
def status : Node → m Status
  | group _ negate _ [] => do pure ((← leaves.childless).negateIf negate)
  | group operator negate _ (n :: r) => do
    pure ((operator.combine (← statuses (n :: r))).negateIf negate)
  | criterion testRef negate _ => do pure ((← leaves.criterion testRef).negateIf negate)
  | extend definitionRef negate _ => do pure ((← leaves.extend definitionRef).negateIf negate)

def statuses : List Node → m (List Status)
  | [] => pure []
  | n :: r => do pure ((← status n) :: (← statuses r))
end

theorem statuses_eq_mapM [LawfulMonad m] (ns : List Node) :
    statuses leaves ns = ns.mapM (status leaves) := by
  induction ns with
  | nil => simp [statuses]
  | cons n r ih => simp [statuses, ih]

end Node
end Oval
