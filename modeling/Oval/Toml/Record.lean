import Oval.Toml.Number
import Oval.Toml.Reader

/-! # Records in TOML

A record is a table, or an array of its fields in their order.  A moment counts as a table with a
single entry of no known name.  Entries that are not fields are ignored, but their numbers must be
well spelt and in range.
-/
namespace Oval.Toml

mutual
/-- Whether every number inside the value is well spelt and in range. -/
def isReadable : Toml → Bool
  | .integer n => integerInRange n
  | .float x => x.isInRange
  | .array _ items => areReadable items
  | .table _ entries => entriesReadable entries
  | .misspelt _ => false
  | .string _ | .bool _ | .moment _ => true

def areReadable : List Toml → Bool
  | [] => true
  | v :: r => isReadable v && areReadable r

def entriesReadable : Entries → Bool
  | [] => true
  | (_, v) :: r => isReadable v && entriesReadable r
end

def fieldsOfEntries? (names : List String) (entries : Entries) : Option (List (Option Toml)) :=
  if entries.all fun (k, v) => names.contains k || isReadable v then
    some (names.map fun name => entries.lookup name)
  else none

/-- The fields of a record in any notation; further items of an array are not looked at. -/
def fields? (names : List String) : Toml → Option (List (Option Toml))
  | .table _ entries => fieldsOfEntries? names entries
  | .array _ items => some ((List.range names.length).map fun i => items[i]?)
  | .moment _ => some (names.map fun _ => none)
  | _ => none

def bool? : Toml → Option Bool
  | .bool b => some b
  | _ => none

def string? : Toml → Option String
  | .string s => some s
  | _ => none

def word? : Toml → Option Nat
  | .integer n => if 0 ≤ n && n < Text.wordBound then some n.toNat else none
  | _ => none

def defaulted {α : Type} (default : α) (f : Toml → Option α) : Option Toml → Option α
  | some v => f v
  | none => some default

end Oval.Toml
