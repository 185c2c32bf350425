import Oval.Error
import Oval.Trace

/-! # Inventories

What is installed on a machine.  `Inventory` answers the two questions that tests ask, and may
fail; `StaticInventory` is a fixed list of packages and files.
-/
namespace Oval

structure Package where
  name : String
  evr : String
  arch : Option String := none
  deriving DecidableEq, Repr

/-- The answers to the questions of tests.  A failure carries its text. -/
structure Inventory where
  packages : PackageFormat → String → Except String (List Package)
  file : String → Except String (Option String)

namespace Inventory

def askPackages (inv : Inventory) (format : PackageFormat) (name : String) :
    Traced (Except AssessmentError (List Package)) := do
  Traced.emit (.query (.packages format name))
  pure ((inv.packages format name).mapError .inventory)

/-- Asks for the content of a file; `none` if there is no such file. -/
def askFile (inv : Inventory) (path : String) :
    Traced (Except AssessmentError (Option String)) := do
  Traced.emit (.query (.file path))
  pure ((inv.file path).mapError .inventory)

end Inventory

/-- The files are kept by path, each path once. -/
structure StaticInventory where
  rpm : List Package := []
  dpkg : List Package := []
  files : List (String × String) := []
  deriving DecidableEq, Repr, Inhabited

namespace StaticInventory

def ofFormat (inv : StaticInventory) : PackageFormat → List Package
  | .rpm => inv.rpm
  | .dpkg => inv.dpkg

def packageCount (inv : StaticInventory) : Nat := inv.rpm.length + inv.dpkg.length

def addPackage (inv : StaticInventory) (format : PackageFormat) (p : Package) : StaticInventory :=
  match format with
  | .rpm => { inv with rpm := inv.rpm ++ [p] }
  | .dpkg => { inv with dpkg := inv.dpkg ++ [p] }

/-- Puts a file under its path, in place of a former one. -/
def putFile (files : List (String × String)) (path content : String) : List (String × String) :=
  match files with
  | [] => [(path, content)]
  | (p, c) :: r => if p = path then (path, content) :: r else (p, c) :: putFile r path content

def addFile (inv : StaticInventory) (path content : String) : StaticInventory :=
  { inv with files := putFile inv.files path content }

def packages (inv : StaticInventory) (format : PackageFormat) (name : String) : List Package :=
  (inv.ofFormat format).filter (·.name == name)

def file? (inv : StaticInventory) (path : String) : Option String := inv.files.lookup path

def toInventory (inv : StaticInventory) : Inventory where
  packages format name := .ok (inv.packages format name)
  file path := .ok (inv.file? path)

end StaticInventory
end Oval
