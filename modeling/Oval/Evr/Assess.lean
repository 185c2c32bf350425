import Oval.Evr.Order
import Oval.Trace

/-! # Reported version comparisons

Comparing versions leaves an event for every comparison that succeeds; asking whether an operation
is satisfied counts as one comparison, successful or not.
-/
namespace Oval.Evr

def compareReported (actual expected : String) : Traced (Except EvrError Comparison) :=
  match compare actual expected with
  | .error e => pure (.error e)
  | .ok c => do
    Traced.report (.evrCompared c.actual c.expected c.epoch c.version c.release)
    pure (.ok c)

def orderingReported (actual expected : String) : Traced (Except EvrError Ordering) := do
  pure ((← compareReported actual expected).map Comparison.ordering)

/-- Whether the operation is satisfied, reported and counted. -/
def satisfiesReported (operation : EvrOperation) (actual expected : String) :
    Traced (Except EvrError Bool) := do
  let result ← match operation with
    | .unknown text => pure (.error (.unknownOperation text))
    | .known relation => do pure ((← orderingReported actual expected).map relation.admits)
  Traced.count (.evrCompared result.isOk)
  pure result

theorem value_compareReported (actual expected : String) :
    (compareReported actual expected).value = compare actual expected := by
  unfold compareReported
  split <;> simp_all

theorem value_orderingReported (actual expected : String) :
    (orderingReported actual expected).value = ordering actual expected := by
  simp [orderingReported, ordering, value_compareReported]

/-- Reporting changes no answer. -/
theorem value_satisfiesReported (operation : EvrOperation) (actual expected : String) :
    (satisfiesReported operation actual expected).value =
      satisfies operation actual expected := by
  cases operation <;> simp [satisfiesReported, satisfies, value_orderingReported]

end Oval.Evr
