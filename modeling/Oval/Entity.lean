import Oval.Check
import Oval.Kind
import Oval.Operation

/-! # Tests, objects and states

A test names an object, which says what to collect, and states, which say what a collected item
must satisfy.  Packages of either format share one type of object and one type of state.
-/
namespace Oval

class Identified (α : Type) where
  ident : α → String

structure Test where
  id : String
  comment : Option String := none
  check : Check := .all
  existence : Existence := .atLeastOneExists
  objectRef : String
  stateRefs : List String := []
  deriving DecidableEq, Repr

structure PackageObject where
  id : String
  name : String
  deriving DecidableEq, Repr

/-- Matches of a pattern in a file.  `instanceIndex` counts from one and keeps a single match. -/
structure TextObject where
  id : String
  filepath : String
  pattern : String
  instanceIndex : Option Nat := none
  deriving DecidableEq, Repr

structure EvrRequirement where
  operation : EvrOperation := .known .equals
  value : String
  deriving DecidableEq, Repr

structure PackageState where
  id : String
  evr : Option EvrRequirement := none
  arch : Option String := none
  deriving DecidableEq, Repr

structure TextRequirement where
  operation : TextOperation := .equals
  value : String
  deriving DecidableEq, Repr

structure TextState where
  id : String
  subexpression : Option TextRequirement := none
  deriving DecidableEq, Repr

instance : Identified Test := ⟨Test.id⟩
instance : Identified PackageObject := ⟨PackageObject.id⟩
instance : Identified TextObject := ⟨TextObject.id⟩
instance : Identified PackageState := ⟨PackageState.id⟩
instance : Identified TextState := ⟨TextState.id⟩

/-- An entity with its kind: one about packages of a format, or one about the text of files. -/
inductive Tagged (P T : Type)
  | package (format : PackageFormat) (entity : P)
  | text (entity : T)
  deriving DecidableEq, Repr

namespace Tagged

variable {P T : Type}

def kind : Tagged P T → Kind
  | package format _ => format.kind
  | text _ => .textfilecontent54

def ident [Identified P] [Identified T] : Tagged P T → String
  | package _ p => Identified.ident p
  | text t => Identified.ident t

end Tagged

/-- Entities of one role, a list for each kind. -/
structure Collections (P T : Type) where
  rpminfo : List P := []
  dpkginfo : List P := []
  textfilecontent54 : List T := []
  deriving DecidableEq, Repr

namespace Collections

variable {P T : Type}

instance : Inhabited (Collections P T) := ⟨{}⟩

def ofKind (c : Collections P T) : Kind → List (Tagged P T)
  | .rpminfo => c.rpminfo.map (.package .rpm)
  | .dpkginfo => c.dpkginfo.map (.package .dpkg)
  | .textfilecontent54 => c.textfilecontent54.map .text

def ids [Identified P] [Identified T] (c : Collections P T) (kind : Kind) : List String :=
  (c.ofKind kind).map Tagged.ident

theorem kind_of_mem_ofKind {c : Collections P T} {k : Kind} {e : Tagged P T}
    (h : e ∈ c.ofKind k) : e.kind = k := by
  cases k <;> simp only [ofKind, List.mem_map] at h <;> obtain ⟨_, _, rfl⟩ := h <;> rfl

end Collections

abbrev Tests := Collections Test Test
abbrev Objects := Collections PackageObject TextObject
abbrev States := Collections PackageState TextState

abbrev TaggedTest := Tagged Test Test
abbrev TaggedObject := Tagged PackageObject TextObject
abbrev TaggedState := Tagged PackageState TextState

def Tagged.test : TaggedTest → Test
  | .package _ t => t
  | .text t => t

end Oval
