import Oval.Inventory
import Oval.Json.Reader
import Oval.Json.Record

/-! # Static inventories in JSON -/
namespace Oval

open Json

namespace Package

def ofJson? (v : Json) : Option Package := do
  match ← v.fields? ["name", "evr", "arch"] with
  | [name, evr, arch] =>
    some {
      name := ← required string? name
      evr := ← required string? evr
      arch := ← optional string? arch }
  | _ => none

def toJson (p : Package) : Json :=
  present [("name", some (.ofString p.name)), ("evr", some (.ofString p.evr)),
    ("arch", p.arch.map Json.ofString)]

end Package

namespace StaticInventory

/-- Reads a map from paths to contents; of two contents for one path the last one stays. -/
def files? : Json → Option (List (String × String))
  | .object members => do
    let pairs ← each? (fun (k, v) => do some (← k, ← string? v)) members
    some (pairs.foldl (fun files (path, content) => putFile files path content) [])
  | _ => none

def ofJson? (v : Json) : Option StaticInventory := do
  match ← v.fields? ["rpm_packages", "dpkg_packages", "files"] with
  | [rpm, dpkg, files] =>
    some {
      rpm := ← defaulted [] (list? Package.ofJson?) rpm
      dpkg := ← defaulted [] (list? Package.ofJson?) dpkg
      files := ← defaulted [] files? files }
  | _ => none

def toJson (inv : StaticInventory) : Json :=
  record [("rpm_packages", .array (inv.rpm.map Package.toJson)),
    ("dpkg_packages", .array (inv.dpkg.map Package.toJson)),
    ("files", record (inv.files.map fun (path, content) => (path, .ofString content)))]

def ofText? (text : String) : Option StaticInventory := (Json.read? text).bind ofJson?

def load (text : String) : Traced (Except AssessmentError StaticInventory) :=
  match ofText? text with
  | some inv => do
    Traced.report (.inventoryLoaded inv.packageCount inv.files.length)
    pure (.ok inv)
  | none => pure (.error (.inventory "failed to parse inventory JSON"))

end StaticInventory
end Oval
