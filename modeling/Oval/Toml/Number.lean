import Oval.Text.Hex
import Oval.Text.Split
import Oval.Toml.Value

/-! # TOML numbers

Single underscores may stand between two digits.  A decimal integer has no leading zero; one in
another base has its letter after a zero and no sign.
-/
namespace Oval.Toml

/-- The digits of a run with underscores between digits. -/
def ungroup? (isDigit : Char → Bool) : List Char → Option (List Char)
  | [] => none
  | [c] => if isDigit c then some [c] else none
  | c :: '_' :: r => if isDigit c then (ungroup? isDigit r).map (c :: ·) else none
  | c :: r => if isDigit c then (ungroup? isDigit r).map (c :: ·) else none

/-- Whether the text begins with a minus sign, and what follows a sign. -/
def splitSign : List Char → Bool × List Char
  | '-' :: r => (true, r)
  | '+' :: r => (false, r)
  | s => (false, s)

def whole? (s : List Char) : Option (List Char) := do
  let ds ← ungroup? Text.isDigit s
  if ds.head? = some '0' && ds.length > 1 then none else some ds

def inBase? (base : Nat) (s : List Char) : Option Nat := do
  let ds ← ungroup? (fun c => (Text.hexDigit? c).any (· < base)) s
  ds.foldlM (fun n c => (Text.hexDigit? c).map (base * n + ·)) 0

def integer? : List Char → Option Int
  | '0' :: 'x' :: r => (inBase? 16 r).map Int.ofNat
  | '0' :: 'o' :: r => (inBase? 8 r).map Int.ofNat
  | '0' :: 'b' :: r => (inBase? 2 r).map Int.ofNat
  | s => do
    let (negative, r) := splitSign s
    let n := Text.decimalValue (← whole? r)
    some (if negative then -n else n)

/-- The value of an exponent, which may have leading zeros. -/
def exponent? (s : List Char) : Option Int := do
  let (negative, r) := splitSign s
  let n := Text.decimalValue (← ungroup? Text.isDigit r)
  some (if negative then -n else n)

/-- The digits before and after the point; both are there if there is a point. -/
def mantissa? (s : List Char) : Option (List Char × List Char) :=
  match Text.cut? '.' s with
  | some (before, after) => do some (← whole? before, ← ungroup? Text.isDigit after)
  | none => (whole? s).map fun ds => (ds, [])

/-- A number with a point, an exponent or both, or one of the special names. -/
def float? (s : List Char) : Option Float :=
  let (negative, r) := splitSign s
  if r = ['i', 'n', 'f'] then some (.infinite negative)
  else if r = ['n', 'a', 'n'] then some .notANumber
  else
    match Text.cut? 'e' (r.map fun c => if c = 'E' then 'e' else c) with
    | some (m, e) => do
      let (before, after) ← mantissa? m
      some (.decimal negative (before ++ after) ((← exponent? e) - after.length))
    | none => do
      let (before, after) ← mantissa? r
      if r.contains '.' then some (.decimal negative (before ++ after) (-after.length)) else none

/-- Whether both ends of a group of digits are digits, letters up to F counting as such. -/
def isGroup (s : List Char) : Bool :=
  (s.head?.bind Text.hexDigit?).isSome && (s.getLast?.bind Text.hexDigit?).isSome

/-- Whether a decimal number goes on after an underscore with what are not decimal digits alone.
Each group begins with a digit and all but the last one end with a digit. -/
def isMisspeltDecimal (s : List Char) : Bool :=
  match (splitSign s).2 with
  | [] => false
  | c :: r =>
    match Text.pieces '_' (r.dropWhile Text.isDigit) with
    | [] :: first :: others =>
      let groups := first :: others
      Text.isDigit c && c ≠ '0' && !r.any ['.', 'e', 'E', ' '].contains &&
        groups.dropLast.all isGroup && groups.all fun g => (g.head?.bind Text.hexDigit?).isSome
    | _ => false

/-- Whether a word that is no value may stand for a number as long as nothing reads it: the mark of
a base without digits, or a decimal number with letters after an underscore. -/
def isMisspelt (s : List Char) : Bool :=
  [['0', 'x'], ['0', 'o'], ['0', 'b']].contains s || isMisspeltDecimal s

/-- Half a unit above the largest finite binary64 value: what is not below it is out of range. -/
def overflowBound : Nat := Nat.pow 2 1024 - Nat.pow 2 970

/-- Whether the value is a number within the range of binary64, or was written as none. -/
def Float.isInRange : Float → Bool
  | .infinite _ | .notANumber => true
  | .decimal _ digits scale =>
    let ds := digits.dropWhile (· = '0')
    let places := (ds.length : Int) + scale
    if ds.isEmpty || places ≤ 308 then true
    else if places > 310 then false
    else if scale ≥ 0 then Text.decimalValue ds * Nat.pow 10 scale.toNat < overflowBound
    else Text.decimalValue ds < overflowBound * Nat.pow 10 scale.natAbs

/-- Whether the integer fits 128 bits, signed or unsigned. -/
def integerInRange (n : Int) : Bool := -Int.pow 2 127 ≤ n && n < Int.pow 2 128

end Oval.Toml
