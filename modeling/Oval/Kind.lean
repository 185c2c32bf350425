/-! # Kinds of tests, objects and states -/
namespace Oval

/-- What a test looks at.  Tests, objects and states are kept apart by kind. -/
inductive Kind
  | rpminfo
  | dpkginfo
  | textfilecontent54
  deriving DecidableEq, Repr, Inhabited

namespace Kind

/-- The order in which the collections of the kinds are searched. -/
def lookupOrder : List Kind := [rpminfo, dpkginfo, textfilecontent54]

def text : Kind → String
  | rpminfo => "rpminfo"
  | dpkginfo => "dpkginfo"
  | textfilecontent54 => "textfilecontent54"

end Kind

inductive PackageFormat
  | rpm
  | dpkg
  deriving DecidableEq, Repr, Inhabited

namespace PackageFormat

def all : List PackageFormat := [rpm, dpkg]

def text : PackageFormat → String
  | rpm => "rpm"
  | dpkg => "dpkg"

def kind : PackageFormat → Kind
  | rpm => .rpminfo
  | dpkg => .dpkginfo

end PackageFormat

inductive Entity
  | definition
  | test
  | object
  | state
  deriving DecidableEq, Repr, Inhabited

namespace Entity

def all : List Entity := [definition, test, object, state]

def text : Entity → String
  | definition => "definition"
  | test => "test"
  | object => "object"
  | state => "state"

end Entity
end Oval
