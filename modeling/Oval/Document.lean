import Oval.Criteria
import Oval.Entity

/-! # Definition documents -/
namespace Oval

structure Metadata where
  title : String := ""
  description : Option String := none
  deriving DecidableEq, Repr, Inhabited

structure Definition where
  id : String
  metadata : Metadata := {}
  criteria : Criteria

def Definition.title (d : Definition) : String := d.metadata.title

structure Document where
  definitions : List Definition := []
  tests : Tests := {}
  objects : Objects := {}
  states : States := {}

namespace Document

instance : Inhabited Document := ⟨{}⟩

variable (d : Document)

def addDefinition (definition : Definition) : Document :=
  { d with definitions := d.definitions ++ [definition] }

def addTest (kind : Kind) (test : Test) : Document :=
  match kind with
  | .rpminfo => { d with tests.rpminfo := d.tests.rpminfo ++ [test] }
  | .dpkginfo => { d with tests.dpkginfo := d.tests.dpkginfo ++ [test] }
  | .textfilecontent54 => { d with tests.textfilecontent54 := d.tests.textfilecontent54 ++ [test] }

def addPackageObject (format : PackageFormat) (object : PackageObject) : Document :=
  match format with
  | .rpm => { d with objects.rpminfo := d.objects.rpminfo ++ [object] }
  | .dpkg => { d with objects.dpkginfo := d.objects.dpkginfo ++ [object] }

def addPackageState (format : PackageFormat) (state : PackageState) : Document :=
  match format with
  | .rpm => { d with states.rpminfo := d.states.rpminfo ++ [state] }
  | .dpkg => { d with states.dpkginfo := d.states.dpkginfo ++ [state] }

end Document
end Oval
