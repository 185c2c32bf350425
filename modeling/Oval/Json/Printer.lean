import Oval.Json.Value

/-! # Printing JSON

The compact form: no blanks, characters outside ASCII as they are, and an escape only where the
grammar asks for one.
-/
namespace Oval.Json
namespace Printer

def hexChar (n : Nat) : Char := Char.ofNat (if n < 10 then '0'.toNat + n else 'a'.toNat + (n - 10))

def escape (c : Char) : List Char :=
  match c with
  | '"' => ['\\', '"']
  | '\\' => ['\\', '\\']
  | '\x08' => ['\\', 'b']
  | '\x0c' => ['\\', 'f']
  | '\n' => ['\\', 'n']
  | '\r' => ['\\', 'r']
  | '\t' => ['\\', 't']
  | c =>
    if c.toNat < 0x20 then ['\\', 'u', '0', '0', hexChar (c.toNat / 16), hexChar (c.toNat % 16)]
    else [c]

def string (s : List Char) : List Char := '"' :: (s.flatMap escape ++ ['"'])

/-- A string without characters is printed as the escape of a lone surrogate. -/
def maybeString : Option String → List Char
  | some s => string s.toList
  | none => ['"', '\\', 'u', 'd', '8', '0', '0', '"']

def number (n : Number) : List Char :=
  (if n.negative then ['-'] else []) ++ n.whole ++
    (match n.fraction with
      | some ds => '.' :: ds
      | none => []) ++
    (match n.exponent with
      | some (negative, ds) => 'e' :: (if negative then '-' :: ds else ds)
      | none => [])

mutual
def value : Json → List Char
  | .null => ['n', 'u', 'l', 'l']
  | .bool true => ['t', 'r', 'u', 'e']
  | .bool false => ['f', 'a', 'l', 's', 'e']
  | .number n => number n
  | .string s => maybeString s
  | .array items => '[' :: itemsFrom true items
  | .object members => '{' :: membersFrom true members

/-- The items of an array and its closing bracket; all but the first follow a comma. -/
def itemsFrom : (first : Bool) → List Json → List Char
  | _, [] => [']']
  | first, v :: r => (if first then [] else [',']) ++ value v ++ itemsFrom false r

def membersFrom : (first : Bool) → List (Option String × Json) → List Char
  | _, [] => ['\x7d']
  | first, (k, v) :: r =>
    (if first then [] else [',']) ++ maybeString k ++ ':' :: value v ++ membersFrom false r
end

end Printer

def print (v : Json) : String := String.ofList (Printer.value v)

end Oval.Json
