/-! # Nodes on a cycle

A graph is given by the targets of each node.  `reach` marks what can be reached, each node
expanded once; a node lies on a cycle if it can be reached from its own targets.
-/
namespace Oval

/-- A graph whose nodes are numbered from zero: the targets of each. -/
abbrev Graph := Array (List Nat)

namespace Graph

variable (g : Graph)

def targets (a : Nat) : List Nat := g.getD a []

def edgeCount : Nat := g.toList.flatten.length

/-- Marks what can be reached from `todo`, apart from what is marked already.  Each step takes a
node from `todo`, so `steps` need only cover the nodes waiting there and the targets of the nodes
not yet marked.  A number that is no node counts as marked. -/
def reach : (steps : Nat) → (todo : List Nat) → (marked : Array Bool) → Array Bool
  | 0, _, marked => marked
  | _ + 1, [], marked => marked
  | steps + 1, a :: todo, marked =>
    if marked.getD a true then reach steps todo marked
    else reach steps (g.targets a ++ todo) (marked.setIfInBounds a true)

/-- Whether a path of one edge or more leads from the node back to it. -/
def onCycle (a : Nat) : Bool :=
  (g.reach ((g.targets a).length + g.edgeCount) (g.targets a)
    (Array.replicate g.size false)).getD a false

def onCycles : List Nat := (List.range g.size).filter g.onCycle

end Graph
end Oval
