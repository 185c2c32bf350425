import Oval.Evr.Notation
import Oval.Evr.Segment
import Oval.Operation

/-! # The order of versions

Epochs are compared as numbers, then versions, then releases.  Version and release are cut at
dashes and each piece at dots.  The comparison is not symmetric: the actual side decides how many
segments are looked at.
-/
namespace Oval.Evr

/-- Compares dot segments in step.  An actual segment without a partner is greater; expected
segments without a partner decide nothing. -/
def compareDots : List (List Char) → List (List Char) → Ordering
  | [], _ => .eq
  | _ :: _, [] => .gt
  | a :: as, c :: cs => (compareSegments a c).then (compareDots as cs)

/-- Compares dash pieces in step; pieces without a partner decide nothing. -/
def compareDashes : List (List Char) → List (List Char) → Ordering
  | a :: as, c :: cs =>
    (compareDots (Text.pieces '.' a) (Text.pieces '.' c)).then (compareDashes as cs)
  | _, _ => .eq

def compareTexts (actual expected : List Char) : Ordering :=
  compareDashes (Text.pieces '-' actual) (Text.pieces '-' expected)

/-- An empty release counts as `0`. -/
def releaseOrZero (release : List Char) : List Char := if release.isEmpty then ['0'] else release

structure Comparison where
  actual : String
  expected : String
  epoch : Ordering
  version : Ordering
  release : Ordering
  deriving DecidableEq, Repr

/-- The first component that differs decides. -/
def Comparison.ordering (c : Comparison) : Ordering := (c.epoch.then c.version).then c.release

def parse (s : List Char) : Except EvrError Evr :=
  match split? s with
  | some evr => .ok evr
  | none => .error (.missingEpoch (String.ofList s))

def epochNumber (epoch : List Char) : Except EvrError Nat :=
  match Text.word? epoch with
  | some n => .ok n
  | none => .error (.invalidEpoch (String.ofList epoch))

def compareVersions (actual expected : List Char) : Except EvrError Ordering :=
  if actual.isEmpty || expected.isEmpty then .error .emptyVersion
  else .ok (compareTexts actual expected)

/-- Compares two version texts.  Both epochs must be numbers, the actual one first, and neither
version may be empty. -/
def compare (actual expected : String) : Except EvrError Comparison := do
  let a := normalize actual.toList
  let c := normalize expected.toList
  let act ← parse a
  let chk ← parse c
  let epoch := Ord.compare (← epochNumber act.epoch) (← epochNumber chk.epoch)
  let version ← compareVersions act.version chk.version
  let release := compareTexts (releaseOrZero act.release) (releaseOrZero chk.release)
  pure { actual := String.ofList a, expected := String.ofList c, epoch, version, release }

def ordering (actual expected : String) : Except EvrError Ordering :=
  (compare actual expected).map Comparison.ordering

/-- Whether the actual version stands in the relation of the operation to the expected one.  An
unknown operation fails before the texts are looked at. -/
def satisfies (operation : EvrOperation) (actual expected : String) : Except EvrError Bool :=
  match operation with
  | .unknown text => .error (.unknownOperation text)
  | .known relation => (ordering actual expected).map relation.admits

end Oval.Evr
