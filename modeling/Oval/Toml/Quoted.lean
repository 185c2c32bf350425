import Oval.Text.Hex

/-! # TOML strings

Basic strings have escapes, literal strings have none; both may run over several lines between
three quotes.  A newline right after three opening quotes does not count, and a line of a basic
string that ends in a backslash continues at the next character that is not blank.
-/
namespace Oval.Toml

def isSpace (c : Char) : Bool := c = ' ' || c = '\t'

/-- Tabs and all characters that are no controls. -/
def isPlain (c : Char) : Bool := c = '\t' || (0x20 ≤ c.toNat && c.toNat ≠ 0x7F)

namespace Quoted

def escaped? : Char → Option Char
  | 'b' => some '\x08'
  | 't' => some '\t'
  | 'n' => some '\n'
  | 'f' => some '\x0c'
  | 'r' => some '\r'
  | 'e' => some '\x1b'
  | '"' => some '"'
  | '\\' => some '\\'
  | _ => none

/-- The number of hexadecimal digits that follow the letter of an escape. -/
def hexWidth? : Char → Option Nat
  | 'x' => some 2
  | 'u' => some 4
  | 'U' => some 8
  | _ => none

/-- The character of an escape after its backslash, and how many characters the escape takes. -/
def escape? : List Char → Option (Char × Nat)
  | [] => none
  | c :: r =>
    match hexWidth? c with
    | some width => do
      if (r.take width).length = width then
        some (← Text.scalar? (← Text.hexValue? (r.take width)), width + 1)
      else none
    | none => (escaped? c).map fun c => (c, 1)

def cons (c : Char) : List Char × List Char → List Char × List Char
  | (cs, rest) => (c :: cs, rest)

/-- Reads the rest of a basic string on one line, after `skip` characters of an escape. -/
def basic? : (skip : Nat) → List Char → Option (List Char × List Char)
  | _, [] => none
  | skip + 1, _ :: r => basic? skip r
  | 0, '"' :: r => some ([], r)
  | 0, '\\' :: r => do
    let (c, taken) ← escape? r
    (basic? taken r).map (cons c)
  | 0, c :: r => if isPlain c then (basic? 0 r).map (cons c) else none

def literal? : List Char → Option (List Char × List Char)
  | [] => none
  | '\'' :: r => some ([], r)
  | c :: r => if isPlain c then (literal? r).map (cons c) else none

/-- The characters of a string that ends with `count` quotes or more, of which the last three close
it; there may be two more. -/
def closing (quote : Char) (s : List Char) : Option (List Char × List Char) :=
  let count := ((s.take 5).takeWhile (· = quote)).length
  if count < 3 then none else some (List.replicate (count - 3) quote, s.drop count)

def startsLine : List Char → Bool
  | '\n' :: _ | '\r' :: '\n' :: _ => true
  | _ => false

/-- What the characters of a basic string over several lines are read as. -/
inductive Mode
  | plain
  /-- Inside an escape. -/
  | skip (count : Nat)
  /-- After a backslash at the end of a line. -/
  | trim

/-- Reads the rest of a basic string over several lines. -/
def basicLines? : Mode → List Char → Option (List Char × List Char)
  | _, [] => none
  | .skip (count + 1), _ :: r => basicLines? (.skip count) r
  | .trim, c :: r =>
    if isSpace c || c = '\n' then basicLines? .trim r
    else if c = '\r' then if r.head? = some '\n' then basicLines? .trim r else none
    else content c r
  | .plain, c :: r => content c r
  | .skip 0, c :: r => content c r
where
  content (c : Char) (r : List Char) : Option (List Char × List Char) :=
    match closing '"' (c :: r) with
    | some found => some found
    | none =>
      if c = '\\' then
        if startsLine (r.dropWhile isSpace) then basicLines? .trim r
        else do
          let (c, taken) ← escape? r
          (basicLines? (.skip taken) r).map (cons c)
      else if isPlain c || startsLine (c :: r) then (basicLines? .plain r).map (cons c)
      else none

def literalLines? : List Char → Option (List Char × List Char)
  | [] => none
  | c :: r =>
    match closing '\'' (c :: r) with
    | some found => some found
    | none =>
      if isPlain c || startsLine (c :: r) then (literalLines? r).map (cons c) else none

def dropNewline : List Char → List Char
  | '\n' :: r => r
  | '\r' :: '\n' :: r => r
  | s => s

end Quoted

def quoted? : List Char → Option (List Char × List Char)
  | '"' :: '"' :: '"' :: r => Quoted.basicLines? .plain (Quoted.dropNewline r)
  | '\'' :: '\'' :: '\'' :: r => Quoted.literalLines? (Quoted.dropNewline r)
  | '"' :: r => Quoted.basic? 0 r
  | '\'' :: r => Quoted.literal? r
  | _ => none

end Oval.Toml
