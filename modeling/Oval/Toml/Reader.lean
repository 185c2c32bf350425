import Oval.Toml.Moment
import Oval.Toml.Number
import Oval.Toml.Quoted

/-! # Reading TOML

A document is read line by line: a header opens a table, and a key with a value goes into the table
opened last.  Functions take the rest of the text and return what they read with what is left.
-/
namespace Oval.Toml
namespace Reader

def skipSpace (s : List Char) : List Char := s.dropWhile isSpace

def newline? : List Char → Option (List Char)
  | '\n' :: r => some r
  | '\r' :: '\n' :: r => some r
  | _ => none

def skipComment : List Char → List Char
  | '#' :: r => r.dropWhile isPlain
  | s => s

/-- Drops blanks, a comment and the end of the line, which must follow. -/
def endLine? (s : List Char) : Option (List Char) :=
  match skipComment (skipSpace s) with
  | [] => some []
  | s => newline? s

/-- Drops blanks, newlines and comments; a comment must end with its line. -/
def skipLines? : (inComment : Bool) → List Char → Option (List Char)
  | _, [] => some []
  | true, c :: r =>
    if c = '\n' then skipLines? false r
    else if isPlain c || c = '\r' && r.head? = some '\n' then skipLines? true r
    else none
  | false, c :: r =>
    if isSpace c || c = '\n' || c = '\r' && r.head? = some '\n' then skipLines? false r
    else if c = '#' then skipLines? true r
    else some (c :: r)

def isBare (c : Char) : Bool := c.isAlphanum || c = '_' || c = '-'

/-- Reads one part of a key: a bare word, or a string on one line. -/
def simpleKey? (s : List Char) : Option (String × List Char) :=
  match s with
  | '"' :: r => (Quoted.basic? 0 r).map fun (cs, rest) => (String.ofList cs, rest)
  | '\'' :: r => (Quoted.literal? r).map fun (cs, rest) => (String.ofList cs, rest)
  | s =>
    let word := s.takeWhile isBare
    if word.isEmpty then none else some (String.ofList word, s.dropWhile isBare)

/-- How deep arrays and braced tables may nest, and how many parts a key may have. -/
def nestingLimit : Nat := 80

/-- Reads at most `parts` parts of a key with the points between them and the blanks after it. -/
def key? : (parts : Nat) → List Char → Option (List String × List Char)
  | 0, _ => none
  | parts + 1, s => do
    let (first, s) ← simpleKey? s
    match skipSpace s with
    | '.' :: r =>
      let (others, rest) ← key? parts (skipSpace r)
      some (first :: others, rest)
    | rest => some ([first], rest)

def isWord (c : Char) : Bool :=
  c ∉ ['=', ',', '[', ']', '{', '}', '#', ' ', '\t', '\r', '\n']

/-- The word at the front of the text.  A date takes the time after a single blank with it. -/
def word (s : List Char) : List Char × List Char :=
  let first := s.takeWhile isWord
  match s.dropWhile isWord with
  | ' ' :: d :: r =>
    if Moment.isDate first && Text.isDigit d then
      (first ++ ' ' :: (d :: r).takeWhile isWord, (d :: r).dropWhile isWord)
    else (first, ' ' :: d :: r)
  | rest => (first, rest)

def ofWord? (w : List Char) : Option Toml :=
  if w = ['t', 'r', 'u', 'e'] then some (.bool true)
  else if w = ['f', 'a', 'l', 's', 'e'] then some (.bool false)
  else ((integer? w).map .integer).or <| ((float? w).map .float).or <|
    if Moment.isMoment w then some (.moment (String.ofList w))
    else if isMisspelt w then some (.misspelt (String.ofList w))
    else none

mutual
/-- Reads a value with at most `room` arrays and braced tables inside one another.  No two calls
pass without taking a character, so twice the length of the text bounds the depth of calls. -/
def value? : (depth room : Nat) → List Char → Option (Toml × List Char)
  | 0, _, _ => none
  | depth + 1, room, s => match s, room with
    | '[' :: _, 0 => none
    | '[' :: r, room + 1 => do
      let (items, rest) ← items? depth room (← skipLines? false r)
      some (.array false items, rest)
    | '{' :: _, 0 => none
    | '{' :: r, room + 1 => do
      let (entries, rest) ← pairs? depth room [] (← skipLines? false r)
      some (.table .braces entries, rest)
    | c :: r, _ =>
      if c = '"' || c = '\'' then
        (quoted? (c :: r)).map fun (cs, rest) => (.string (String.ofList cs), rest)
      else
        let (w, rest) := word (c :: r)
        (ofWord? w).map fun v => (v, rest)
    | [], _ => none

/-- Reads the items of an array up to its closing bracket.  The last one may have a comma. -/
def items? : (depth room : Nat) → List Char → Option (List Toml × List Char)
  | 0, _, _ => none
  | depth + 1, room, s => match s with
    | ']' :: rest => some ([], rest)
    | s => do
      let (v, s) ← value? depth room s
      match ← skipLines? false s with
      | ',' :: r =>
        let (vs, rest) ← items? depth room (← skipLines? false r)
        some (v :: vs, rest)
      | ']' :: rest => some ([v], rest)
      | _ => none

/-- Reads the entries of a braced table up to its closing brace, and adds them to those read
before.  The last one may have a comma. -/
def pairs? : (depth room : Nat) → Entries → List Char → Option (Entries × List Char)
  | 0, _, _, _ => none
  | depth + 1, room, entries, s => match s with
    | '}' :: rest => some (entries, rest)
    | s => do
      let (key, v, s) ← pair? true depth room s
      let entries ← putDotted? v key entries
      match ← skipLines? false s with
      | ',' :: r => pairs? depth room entries (← skipLines? false r)
      | '}' :: rest => some (entries, rest)
      | _ => none

/-- Reads a key, the equals sign and a value.  In braces the equals sign may stand on a line of its
own. -/
def pair? (braces : Bool) : (depth room : Nat) → List Char →
    Option (List String × Toml × List Char)
  | 0, _, _ => none
  | depth + 1, room, s => do
    let gap? (s : List Char) := if braces then skipLines? false s else some (skipSpace s)
    let (key, s) ← key? nestingLimit s
    match ← gap? s with
    | '=' :: r =>
      let (v, rest) ← value? depth room (← gap? r)
      some (key, v, rest)
    | _ => none
end

def header? (closing : List Char) (s : List Char) : Option (List String × List Char) := do
  let (key, s) ← key? nestingLimit (skipSpace s)
  some (key, ← Text.strip? closing s)

/-- What has been read of a document: its entries, and the table opened last. -/
structure State where
  entries : Entries := []
  opened : List String := []

/-- Reads what stands on a line that is not blank, up to the end of the line. -/
def line? (st : State) : List Char → Option (State × List Char)
  | '[' :: '[' :: r => do
    let (path, rest) ← header? [']', ']'] r
    some ({ entries := ← openItem? path st.entries, opened := path }, rest)
  | '[' :: r => do
    let (path, rest) ← header? [']'] r
    some ({ entries := ← openTable? path st.entries, opened := path }, rest)
  | s => do
    let (key, v, rest) ← pair? false (2 * s.length + 2) nestingLimit s
    some ({ st with entries := ← alterAt? (putDotted? v key) st.opened st.entries }, rest)

def lines? : (count : Nat) → State → List Char → Option Entries
  | 0, _, _ => none
  | count + 1, st, s =>
    match skipLines? false s with
    | none => none
    | some [] => some st.entries
    | some s => do
      let (st, rest) ← line? st s
      lines? count st (← endLine? rest)

end Reader

/-- The table of a text, which may begin with a byte order mark. -/
def read? (text : String) : Option Entries :=
  let s := match text.toList with
    | '\uFEFF' :: r => r
    | s => s
  Reader.lines? (s.length + 1) {} s

end Oval.Toml
