import Oval.Item
import Oval.Registry

/-! # Assessment of a test

A test resolves its object and its states, collects the items of the object and judges them.  The
first reference that cannot be used is the error, and then nothing is collected.
-/
namespace Oval.Registry

variable (r : Registry)

/-- An entity of the test's kind under an identifier. -/
def ofSameKind {P T : Type} [Identified P] [Identified T] (t : TaggedTest) (role : Entity)
    (id : String) (found : Option (Tagged P T)) : Except AssessmentError (Tagged P T) :=
  match found with
  | none => .error (.danglingReference role id)
  | some e =>
    if e.kind = t.kind then .ok e
    else .error (.kindMismatch t.test.id role e.ident t.kind e.kind)

def objectOf (t : TaggedTest) : Except AssessmentError TaggedObject :=
  ofSameKind t .object t.test.objectRef (r.object? t.test.objectRef)

def statesOf (t : TaggedTest) : Except AssessmentError (List TaggedState) :=
  t.test.stateRefs.mapM fun id => ofSameKind t .state id (r.state? id)

/-- The object and the states, the object being looked up first. -/
def resolve (t : TaggedTest) : Except AssessmentError (TaggedObject × List TaggedState) := do
  pure (← r.objectOf t, ← r.statesOf t)

/-- Whether the item satisfies all states.  Every state is matched, so that a state that fails
after one that is not satisfied still counts. -/
def admitsAll (states : List TaggedState) (item : Item) : Assess Bool := do
  pure ((← states.mapM (·.admits item)).all id)

/-- Judges the items: by their number alone if that is refused, or if there is nothing to match,
and else by how many of them satisfy the states. -/
def judge (test : Test) (states : List TaggedState) (items : List Item) : Assess Bool := do
  let exist := test.existence.admits items.length
  if !exist || states.isEmpty || items.isEmpty then pure exist
  else pure (test.check.combine (← items.mapM (admitsAll states)))

def outcomeOf (inv : Inventory) (t : TaggedTest) : Assess Bool := do
  let (object, states) ← ExceptT.mk (pure (r.resolve t))
  let items ← object.collect inv
  ExceptT.lift (Traced.report (.itemsCollected t.test.id t.kind items.length states.length
    (t.test.existence.admits items.length)))
  judge t.test states items

def assess (inv : Inventory) (t : TaggedTest) : Traced (Except AssessmentError Bool) := do
  let result ← (r.outcomeOf inv t).run
  Traced.count (.testEvaluated t.kind result.isOk)
  pure result

end Oval.Registry
