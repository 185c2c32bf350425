import Oval.Json.Value
import Oval.Text.Hex

/-! # Reading JSON

A strict reader: no comments, no trailing commas, no characters around the value but the four
blanks.  Each function takes the rest of the text and returns what it read with what is left.
-/
namespace Oval.Json
namespace Reader

def isBlank (c : Char) : Bool := c = ' ' || c = '\t' || c = '\n' || c = '\r'

def skipBlanks (s : List Char) : List Char := s.dropWhile isBlank

/-- A string is first read into characters and the code units of surrogate escapes. -/
inductive Piece
  | char (c : Char)
  | surrogate (unit : Nat)
  deriving DecidableEq, Repr

def pieceOfUnit (n : Nat) : Piece :=
  if 0xD800 ≤ n && n ≤ 0xDFFF then .surrogate n else .char (Char.ofNat n)

def escaped? : Char → Option Char
  | '"' => some '"'
  | '\\' => some '\\'
  | '/' => some '/'
  | 'b' => some '\x08'
  | 'f' => some '\x0c'
  | 'n' => some '\n'
  | 'r' => some '\r'
  | 't' => some '\t'
  | _ => none

def pieces? : List Char → Option (List Piece × List Char)
  | [] => none
  | '"' :: r => some ([], r)
  | '\\' :: 'u' :: a :: b :: c :: d :: r => do
    let n ← Text.hexValue? [a, b, c, d]
    let (ps, rest) ← pieces? r
    some (pieceOfUnit n :: ps, rest)
  | '\\' :: e :: r => do
    let c ← escaped? e
    let (ps, rest) ← pieces? r
    some (.char c :: ps, rest)
  | c :: r =>
    if c.toNat < 0x20 || c = '\\' then none
    else do
      let (ps, rest) ← pieces? r
      some (.char c :: ps, rest)

/-- Joins surrogates in pairs; one that stands alone has no character. -/
def characters? : List Piece → Option (List Char)
  | [] => some []
  | .char c :: r => (characters? r).map (c :: ·)
  | .surrogate h :: .surrogate l :: r =>
    if h ≤ 0xDBFF && 0xDC00 ≤ l then
      (characters? r).map (Char.ofNat (0x10000 + (h - 0xD800) * 0x400 + (l - 0xDC00)) :: ·)
    else none
  | .surrogate _ :: _ => none

def string? (s : List Char) : Option (Option String × List Char) :=
  (pieces? s).map fun (ps, rest) => ((characters? ps).map String.ofList, rest)

def digits? (s : List Char) : Option (List Char × List Char) :=
  let ds := s.takeWhile Text.isDigit
  if ds.isEmpty then none else some (ds, s.dropWhile Text.isDigit)

def fraction? : List Char → Option (Option (List Char) × List Char)
  | '.' :: r => (digits? r).map fun (ds, rest) => (some ds, rest)
  | s => some (none, s)

def exponent? : List Char → Option (Option (Bool × List Char) × List Char)
  | e :: r =>
    if e = 'e' || e = 'E' then
      match r with
      | '-' :: r => (digits? r).map fun (ds, rest) => (some (true, ds), rest)
      | '+' :: r => (digits? r).map fun (ds, rest) => (some (false, ds), rest)
      | r => (digits? r).map fun (ds, rest) => (some (false, ds), rest)
    else some (none, e :: r)
  | [] => some (none, [])

/-- Reads a number; only zero itself may begin with the digit zero. -/
def number? (s : List Char) : Option (Number × List Char) := do
  let (negative, s) := match s with
    | '-' :: r => (true, r)
    | s => (false, s)
  let (whole, s) ← digits? s
  if whole.head? = some '0' && whole.length > 1 then none
  else
    let (fraction, s) ← fraction? s
    let (exponent, s) ← exponent? s
    some ({ negative, whole, fraction, exponent }, s)

mutual
/-- Reads a value that begins at the first character.  Every call consumes a character, so the
length of the text bounds the depth. -/
def value? : (depth : Nat) → List Char → Option (Json × List Char)
  | 0, _ => none
  | depth + 1, s => match s with
    | 'n' :: r => (Text.strip? ['u', 'l', 'l'] r).map fun rest => (.null, rest)
    | 't' :: r => (Text.strip? ['r', 'u', 'e'] r).map fun rest => (.bool true, rest)
    | 'f' :: r => (Text.strip? ['a', 'l', 's', 'e'] r).map fun rest => (.bool false, rest)
    | '"' :: r => (string? r).map fun (v, rest) => (.string v, rest)
    | '[' :: r => match skipBlanks r with
      | ']' :: rest => some (.array [], rest)
      | r => (items? depth r).map fun (vs, rest) => (.array vs, rest)
    | '{' :: r => match skipBlanks r with
      | '}' :: rest => some (.object [], rest)
      | r => (members? depth r).map fun (ms, rest) => (.object ms, rest)
    | s => (number? s).map fun (n, rest) => (.number n, rest)

/-- Reads the items of an array that has at least one, with the closing bracket. -/
def items? : (depth : Nat) → List Char → Option (List Json × List Char)
  | 0, _ => none
  | depth + 1, s => do
    let (v, s) ← value? depth s
    match skipBlanks s with
    | ',' :: r =>
      let (vs, rest) ← items? depth (skipBlanks r)
      some (v :: vs, rest)
    | ']' :: rest => some ([v], rest)
    | _ => none

def members? : (depth : Nat) → List Char → Option (List (Option String × Json) × List Char)
  | 0, _ => none
  | depth + 1, s => match s with
    | '"' :: r => do
      let (k, s) ← string? r
      match skipBlanks s with
      | ':' :: r =>
        let (v, s) ← value? depth (skipBlanks r)
        match skipBlanks s with
        | ',' :: r =>
          let (ms, rest) ← members? depth (skipBlanks r)
          some ((k, v) :: ms, rest)
        | '}' :: rest => some ([(k, v)], rest)
        | _ => none
      | _ => none
    | _ => none
end

end Reader

def read? (text : String) : Option Json := do
  let s := Reader.skipBlanks text.toList
  let (v, rest) ← Reader.value? (s.length + 1) s
  if (Reader.skipBlanks rest).isEmpty then some v else none

end Oval.Json
