import Oval.Text.Decimal

/-! # TOML dates and times

A date, a time, or a date and a time, the last with or without an offset.  Seconds may be left out;
a second 60 is allowed.
-/
namespace Oval.Toml.Moment

/-- The number of the first `n` characters, which must be digits, with the rest of the text. -/
def digits? (n : Nat) (s : List Char) : Option (Nat × List Char) :=
  let ds := s.take n
  if ds.length = n && ds.all Text.isDigit then some (Text.decimalValue ds, s.drop n) else none

/-- A number of `n` digits within bounds. -/
def between? (n low high : Nat) (s : List Char) : Option (Nat × List Char) := do
  let (value, rest) ← digits? n s
  if low ≤ value && value ≤ high then some (value, rest) else none

def drop? (c : Char) : List Char → Option (List Char)
  | d :: r => if d = c then some r else none
  | [] => none

def isLeap (year : Nat) : Bool := year % 4 = 0 && (year % 100 ≠ 0 || year % 400 = 0)

def daysIn (year month : Nat) : Nat :=
  if month = 2 then if isLeap year then 29 else 28
  else if [4, 6, 9, 11].contains month then 30 else 31

def date? (s : List Char) : Option (List Char) := do
  let (year, s) ← digits? 4 s
  let (month, s) ← between? 2 1 12 (← drop? '-' s)
  let (_, s) ← between? 2 1 (daysIn year month) (← drop? '-' s)
  some s

def fraction? : List Char → Option (List Char)
  | '.' :: r => if (r.head?).any Text.isDigit then some (r.dropWhile Text.isDigit) else none
  | s => some s

/-- What follows the seconds, if there are any. -/
def seconds? : List Char → Option (List Char)
  | ':' :: r => do
    let (_, s) ← between? 2 0 60 r
    fraction? s
  | s => some s

def time? (s : List Char) : Option (List Char) := do
  let (_, s) ← between? 2 0 23 s
  let (_, s) ← between? 2 0 59 (← drop? ':' s)
  seconds? s

def offset? : List Char → Option (List Char)
  | [] => some []
  | c :: r =>
    if c = 'Z' || c = 'z' then some r
    else if c = '+' || c = '-' then do
      let (_, s) ← between? 2 0 23 r
      let (_, s) ← between? 2 0 59 (← drop? ':' s)
      some s
    else none

def isDate (s : List Char) : Bool := date? s = some []

/-- Whether the whole text is a moment. -/
def isMoment (s : List Char) : Bool :=
  match date? s with
  | some [] => true
  | some (c :: r) =>
    (c = 'T' || c = 't' || c = ' ') && (do offset? (← time? r)) = some []
  | none => time? s = some []

end Oval.Toml.Moment
