import Oval.Text.Decimal

/-! # TOML values and tables

A document is a table.  How a table or an array came about decides what may still be added to it:
a table that a header opened is not opened again, one written in braces is complete, and dotted
keys only continue tables that no header opened, which no header opens after that.
-/
namespace Oval

/-- A number with a point or an exponent: the digits, the power of ten that scales them, and the
two values that are no numbers. -/
inductive Toml.Float
  | decimal (negative : Bool) (digits : List Char) (scale : Int)
  | infinite (negative : Bool)
  | notANumber
  deriving DecidableEq, Repr

inductive Toml.Origin
  | header
  /-- On the way to a table that a header names. -/
  | implied
  | dotted
  | braces
  deriving DecidableEq, Repr

inductive Toml
  | string (value : String)
  | integer (value : Int)
  | float (value : Toml.Float)
  /-- A word that begins as a number and is none; it has no value. -/
  | misspelt (word : String)
  | bool (value : Bool)
  /-- A date, a time or both, as written. -/
  | moment (text : String)
  /-- An array is either written in brackets or made of the tables of its headers. -/
  | array (ofHeaders : Bool) (items : List Toml)
  | table (origin : Toml.Origin) (entries : List (String × Toml))
  deriving Inhabited

namespace Toml

abbrev Entries := List (String × Toml)

/-- Sets the value under a key to what `f` makes of the present one. -/
def alter? (f : Option Toml → Option Toml) (key : String) : Entries → Option Entries
  | [] => (f none).map fun v => [(key, v)]
  | (k, v) :: r =>
    if k = key then (f (some v)).map fun v => (k, v) :: r
    else (alter? f key r).map ((k, v) :: ·)

def put? (key : String) (value : Toml) (es : Entries) : Option Entries :=
  alter? (fun present => if present.isNone then some value else none) key es

/-- Changes the last table of an array of tables. -/
def alterLast? (f : Entries → Option Entries) : List Toml → Option (List Toml)
  | [] => none
  | [.table origin inner] => (f inner).map fun inner => [.table origin inner]
  | [_] => none
  | item :: r => (alterLast? f r).map (item :: ·)

/-- Puts a value under a dotted key.  The tables on the way to it count as begun by dotted keys from
then on, so a header may have implied but not opened them.  The last table of an array may be
crossed, but takes no value itself. -/
def putDotted? (value : Toml) : (path : List String) → Entries → Option Entries
  | [], _ => none
  | [key], es => put? key value es
  | key :: next :: rest, es =>
    alter? (fun
      | none => (putDotted? value (next :: rest) []).map (.table .dotted)
      | some (.table .dotted inner) | some (.table .implied inner) =>
        (putDotted? value (next :: rest) inner).map (.table .dotted)
      | some (.array true items) =>
        if rest.isEmpty then none
        else (alterLast? (putDotted? value (next :: rest)) items).map (.array true)
      | some _ => none) key es

/-- Changes the table at the path of a header.  Missing tables on the way are implied, and an array
of tables stands for its last one. -/
def alterAt? (f : Entries → Option Entries) : (path : List String) → Entries → Option Entries
  | [], es => f es
  | key :: rest, es =>
    alter? (fun
      | none => (alterAt? f rest []).map (.table .implied)
      | some (.table .braces _) => none
      | some (.table origin inner) => (alterAt? f rest inner).map (.table origin)
      | some (.array true items) => (alterLast? (alterAt? f rest) items).map (.array true)
      | some _ => none) key es

/-- Opens the table that a header names; it may have been implied, but not opened before. -/
def openTable? (path : List String) (es : Entries) : Option Entries := do
  let key ← path.getLast?
  alterAt? (alter? (fun
    | none => some (.table .header [])
    | some (.table .implied inner) => some (.table .header inner)
    | some _ => none) key) path.dropLast es

/-- Adds a table to the array that a header names. -/
def openItem? (path : List String) (es : Entries) : Option Entries := do
  let key ← path.getLast?
  alterAt? (alter? (fun
    | none => some (.array true [.table .header []])
    | some (.array true items) => some (.array true (items ++ [.table .header []]))
    | some _ => none) key) path.dropLast es

end Toml
end Oval
