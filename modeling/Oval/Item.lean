import Oval.Entity
import Oval.Evr.Assess
import Oval.Inventory
import Oval.Pattern.Refusal
import Oval.Pattern.Search

/-! # Items

An object collects items from an inventory: the packages of its name, or the matches of its
pattern in a file.  A state is matched against one item at a time.
-/
namespace Oval

abbrev Assess := ExceptT AssessmentError Traced

inductive Item
  | package (p : Package)
  | text (s : String)
  deriving DecidableEq, Repr

namespace Pattern

/-- Reads a pattern; a text that is none is an error under that text. -/
def assess (source : String) : Except AssessmentError Pattern :=
  (ofText source).mapError fun refusal => .pattern source refusal.message

end Pattern

/-- The matches that the object asks for: all of them, or the one with its number. -/
def TextObject.choose (o : TextObject) (found : List String) :
    Except AssessmentError (List String) :=
  match o.instanceIndex with
  | none => .ok found
  | some 0 => .error (.invalidEntity .object o.id "instance is 1-based and must be at least 1")
  | some (n + 1) => .ok found[n]?.toList

/-- The texts that the object finds in a file; a missing file has none. -/
def TextObject.textsIn (o : TextObject) : Option String → Except AssessmentError (List String)
  | none => .ok []
  | some content => do o.choose ((← Pattern.assess o.pattern).captured content)

/-- Asks the inventory once, for packages of the format or for the file. -/
def Tagged.collect (inv : Inventory) : TaggedObject → Assess (List Item)
  | .package format o => do
    pure ((← ExceptT.mk (inv.askPackages format o.name)).map .package)
  | .text o => do
    let content ← ExceptT.mk (inv.askFile o.filepath)
    pure ((← liftExcept (o.textsIn content)).map .text)
where
  liftExcept {α : Type} (x : Except AssessmentError α) : Assess α := ExceptT.mk (pure x)

def PackageState.admitsArch (s : PackageState) (p : Package) : Bool :=
  s.arch.isNone || p.arch == s.arch

/-- Versions are compared only if the architecture agrees. -/
def PackageState.admits (s : PackageState) (p : Package) : Assess Bool :=
  if !s.admitsArch p then pure false
  else match s.evr with
    | some required => ExceptT.mk do
      pure ((← Evr.satisfiesReported required.operation p.evr required.value).mapError .evr)
    | none => pure true

def TextRequirement.admits (r : TextRequirement) (value : String) :
    Except AssessmentError Bool :=
  match r.operation with
  | .equals => .ok (value == r.value)
  | .notEqual => .ok (value != r.value)
  | .patternMatch => do pure ((← Pattern.assess r.value).occursIn value)
  | .unknown text => .error (.unknownOperation text)

def TextState.admits (s : TextState) (value : String) : Except AssessmentError Bool :=
  match s.subexpression with
  | some required => required.admits value
  | none => .ok true

/-- A state about packages matches packages only, one about texts matches texts only. -/
def Tagged.admits : TaggedState → Item → Assess Bool
  | .package _ s, .package p => s.admits p
  | .text s, .text value => ExceptT.mk (pure (s.admits value))
  | s, _ => throw (.invalidEntity .state s.ident "state cannot be applied to the collected item")

end Oval
