import Oval.Text.Decimal

/-! # JSON values

The tree of a JSON text.  A number keeps its digits, so that its spelling decides how it may be
used.  A string is `none` when an escape in it names half of a surrogate pair: such a text has the
right syntax, but the string has no characters.
-/
namespace Oval

/-- A number as written: sign, digits before the point, digits after it, sign and digits of the
exponent. -/
structure Json.Number where
  negative : Bool := false
  whole : List Char
  fraction : Option (List Char) := none
  exponent : Option (Bool × List Char) := none
  deriving DecidableEq, Repr

inductive Json
  | null
  | bool (value : Bool)
  | number (value : Json.Number)
  | string (value : Option String)
  | array (items : List Json)
  | object (members : List (Option String × Json))
  deriving Inhabited

namespace Json

def Number.natural? (bound : Nat) (n : Number) : Option Nat :=
  if n.negative || n.fraction.isSome || n.exponent.isSome then none
  else if Text.decimalValue n.whole < bound then some (Text.decimalValue n.whole) else none

def ofNat (n : Nat) : Json := .number { whole := Nat.toDigits 10 n }

def ofString (s : String) : Json := .string (some s)

def record (members : List (String × Json)) : Json :=
  .object (members.map fun (k, v) => (some k, v))

def ofList {α : Type} (f : α → Json) (xs : List α) : Json := .array (xs.map f)

def present (members : List (String × Option Json)) : Json :=
  record (members.filterMap fun (k, v) => v.map fun v => (k, v))

/-- The nearest natural number with at most 53 significant bits, a tie going to the even one. -/
def roundTo53 (n : Nat) : Nat :=
  let excess := n.log2 + 1 - 53
  let unit := Nat.pow 2 excess
  let q := n / unit
  let r := n % unit
  if r * 2 < unit then q * unit
  else if r * 2 = unit && q % 2 = 0 then q * unit
  else (q + 1) * unit

/-- The digits that still fit a 64-bit significand, and how many follow them. -/
def significand (ds : List Char) : Nat × Nat :=
  let rec go (value : Nat) : List Char → Nat × Nat
    | [] => (value, 0)
    | d :: r =>
      let next := 10 * value + (d.toNat - '0'.toNat)
      if next < Text.wordBound then go next r else (value, (d :: r).length)
  go 0 ds

/-- Whether the number has a finite binary64 value: the significand is cut to 64 bits, scaled by
the power of ten, and rounded at each step. -/
def Number.isFinite (n : Number) : Bool :=
  let fraction := n.fraction.getD []
  let (value, dropped) := significand (n.whole ++ fraction)
  let scale : Int := (dropped : Int) - fraction.length + match n.exponent with
    | none => 0
    | some (negative, ds) =>
      if negative then -(Text.decimalValue ds : Int) else (Text.decimalValue ds : Int)
  if value = 0 || scale ≤ 0 then true
  else if scale > 308 then false
  else roundTo53 (roundTo53 value * roundTo53 (Nat.pow 10 scale.toNat)) < Nat.pow 2 1024

mutual
/-- Whether the value can be read in full: at most `room` containers inside one another, every
number finite, every string well formed. -/
def isReadable : (room : Nat) → Json → Bool
  | _, .null => true
  | _, .bool _ => true
  | _, .number n => n.isFinite
  | _, .string s => s.isSome
  | 0, .array _ => false
  | room + 1, .array items => areReadable room items
  | 0, .object _ => false
  | room + 1, .object members => membersReadable room members

def areReadable (room : Nat) : List Json → Bool
  | [] => true
  | v :: r => isReadable room v && areReadable room r

def membersReadable (room : Nat) : List (Option String × Json) → Bool
  | [] => true
  | (k, v) :: r => k.isSome && isReadable room v && membersReadable room r
end

end Json
end Oval
