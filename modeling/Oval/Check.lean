/-! # Check modes

`Existence` judges how many items a test collected, `Check` how many of them satisfy its states.
-/
namespace Oval

inductive Check
  | all
  | atLeastOne
  | onlyOne
  | noneSatisfy
  deriving DecidableEq, Repr, Inhabited

namespace Check

def modes : List Check := [all, atLeastOne, onlyOne, noneSatisfy]

def text : Check → String
  | all => "all"
  | atLeastOne => "at least one"
  | onlyOne => "only one"
  | noneSatisfy => "none satisfy"

/-- Judges the number of `true` among the results of the items. -/
def combine (mode : Check) (results : List Bool) : Bool :=
  let satisfied := results.count true
  match mode with
  | all => satisfied == results.length
  | atLeastOne => satisfied ≥ 1
  | onlyOne => satisfied == 1
  | noneSatisfy => satisfied == 0

end Check

inductive Existence
  | atLeastOneExists
  | anyExist
  | noneExist
  | onlyOneExists
  deriving DecidableEq, Repr, Inhabited

namespace Existence

def modes : List Existence := [atLeastOneExists, anyExist, noneExist, onlyOneExists]

def text : Existence → String
  | atLeastOneExists => "at_least_one_exists"
  | anyExist => "any_exist"
  | noneExist => "none_exist"
  | onlyOneExists => "only_one_exists"

def admits (mode : Existence) (count : Nat) : Bool :=
  match mode with
  | atLeastOneExists => count ≥ 1
  | anyExist => true
  | noneExist => count == 0
  | onlyOneExists => count == 1

end Existence
end Oval
