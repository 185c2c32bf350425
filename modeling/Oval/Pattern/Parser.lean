import Oval.Pattern.Surface
import Oval.Text.Blank
import Oval.Text.Decimal
import Oval.Text.Hex
import Oval.Unicode.Letter

/-! # Reading patterns

Reads the text of a pattern into its tree.  The dialect has no look-around and no
back-references.  In verbose mode blanks and comments between tokens are skipped.  Every function
takes the rest of the text and returns what it read with what is left; `none` is a text that is no
pattern.
-/
namespace Oval.Pattern
namespace Parser

/-- Skips blanks and, from a `#` to the end of its line, comments. -/
def skipVerbose : (inComment : Bool) → List Char → List Char
  | _, [] => []
  | true, c :: r => skipVerbose (c ≠ '\n') r
  | false, c :: r =>
    if Text.isBlank c then skipVerbose false r
    else if c = '#' then skipVerbose true r
    else c :: r

def skip (verbose : Bool) (s : List Char) : List Char :=
  if verbose then skipVerbose false s else s

def isMeta (c : Char) : Bool :=
  ['\\', '.', '+', '*', '?', '(', ')', '|', '[', ']', '{', '}', '^', '$', '#', '&', '-',
    '~'].contains c

def isEscapable (c : Char) : Bool :=
  isMeta c || (c.toNat < 128 && !(c.isAlphanum || c = '<' || c = '>'))

/-- Reads characters up to `stop`, skipping in verbose mode after each, and drops `stop`. -/
def until? (verbose : Bool) (stop : Char) :
    (fuel : Nat) → List Char → Option (List Char × List Char)
  | 0, _ => none
  | _ + 1, [] => none
  | fuel + 1, c :: r =>
    if c = stop then some ([], r)
    else (until? verbose stop fuel (skip verbose r)).map fun (cs, rest) => (c :: cs, rest)

def countDigits (verbose : Bool) : (fuel : Nat) → List Char → List Char × List Char
  | 0, s => ([], s)
  | _ + 1, [] => ([], [])
  | fuel + 1, c :: r =>
    if Text.isDigit c then
      let (ds, rest) := countDigits verbose fuel (skip verbose r)
      (c :: ds, rest)
    else ([], c :: r)

/-- A number below 2^32 with blanks around it; the inner `none` means that there are no digits. -/
def count? (verbose : Bool) (s : List Char) : Option (Option Nat × List Char) :=
  let s := s.dropWhile Text.isBlank
  let (ds, rest) := countDigits verbose s.length s
  let rest := match rest with
    | c :: r => if Text.isBlank c then (skip verbose r).dropWhile Text.isBlank else c :: r
    | [] => []
  if ds.isEmpty then some (none, rest)
  else (Text.numeral? (Nat.pow 2 32) ds).map fun n => (some n, rest)

/-- Reads the bounds after an opening brace, with the closing brace. -/
def bounds? (verbose : Bool) (s : List Char) : Option ((Nat × Option Nat) × List Char) := do
  let (first, s) ← count? verbose (skip verbose s)
  match s with
  | ',' :: r =>
    match skip verbose r with
    | '}' :: rest => some ((← first, none), rest)
    | r => do
      let low ← first
      let (last, s) ← count? verbose r
      let high ← last
      match s with
      | '}' :: rest => if low ≤ high then some ((low, some high), rest) else none
      | _ => none
  | '}' :: rest => do
    let n ← first
    some ((n, some n), rest)
  | _ => none

inductive Escape
  | literal (l : Literal)
  | anchor (a : Anchor)
  | shorthand (c : ShorthandClass) (negated : Bool)
  | property (name : PropertyName) (negated : Bool)

def hexDigits? (verbose : Bool) : (n : Nat) → (value : Nat) → List Char → Option (Nat × List Char)
  | 0, value, s => some (value, s)
  | _ + 1, _, [] => none
  | n + 1, value, c :: r => do
    hexDigits? verbose n (16 * value + (← Text.hexDigit? c)) (skip verbose r)

/-- Reads the digits of a hexadecimal escape that names `width` digits, or any number of them in
braces. -/
def hex? (verbose : Bool) (width : Nat) (s : List Char) : Option (Literal × List Char) :=
  match skip verbose s with
  | '{' :: r => do
    let r := skip verbose r
    let (ds, rest) ← until? verbose '}' (r.length + 1) r
    if ds.isEmpty then none
    else
      let value ← Text.hexValue? ds
      some ({ char := ← Text.scalar? value }, skip verbose rest)
  | r => do
    let (value, rest) ← hexDigits? verbose width 0 r
    some ({ char := ← Text.scalar? value, byte := width = 2 }, rest)

/-- Divides the text of a property in braces at the operator between name and value. -/
def propertyOf (negated : Bool) (text : List Char) : PropertyName × Bool :=
  match notEqual text with
  | some (name, value) => (.valued name value, !negated)
  | none => match cut ':' text with
    | some (name, value) => (.valued name value, negated)
    | none => match cut '=' text with
      | some (name, value) => (.valued name value, negated)
      | none => (.named text, negated)
where
  cut (sep : Char) : List Char → Option (List Char × List Char)
    | [] => none
    | c :: r => if c = sep then some ([], r) else (cut sep r).map fun (a, b) => (c :: a, b)
  notEqual : List Char → Option (List Char × List Char)
    | [] => none
    | '!' :: '=' :: r => some ([], r)
    | c :: r => (notEqual r).map fun (a, b) => (c :: a, b)

def property? (verbose negated : Bool) (s : List Char) : Option (Escape × List Char) :=
  match skip verbose s with
  | [] => none
  | '{' :: r => do
    let r := skip verbose r
    let (text, rest) ← until? verbose '}' (r.length + 1) r
    let (name, negated) := propertyOf negated text
    some (.property name negated, rest)
  | c :: r => if c = '\\' then none else some (.property (.named [c]) negated, skip verbose r)

def specialBoundary? (name : String) : Option Anchor :=
  if name = "start" then some .wordStart
  else if name = "end" then some .wordEnd
  else if name = "start-half" then some .wordStartHalf
  else if name = "end-half" then some .wordEndHalf
  else none

def isBoundaryNameChar (c : Char) : Bool := c.isAlpha || c = '-'

/-- What follows `\b`: a name in braces makes a special boundary; braces that begin otherwise are
left for a repetition. -/
def boundary? (verbose : Bool) : List Char → Option (Escape × List Char)
  | '{' :: r =>
    match skip verbose r with
    | [] => none
    | c :: r' =>
      if isBoundaryNameChar c then do
        let (name, rest) ← until? verbose '}' (r'.length + 2) (c :: r')
        if name.all isBoundaryNameChar then
          some (.anchor (← specialBoundary? (String.ofList name)), rest)
        else none
      else some (.anchor .wordBoundary, '{' :: r)
  | s => some (.anchor .wordBoundary, s)

/-- Reads an escape after its backslash. -/
def escape? (verbose : Bool) : List Char → Option (Escape × List Char)
  | [] => none
  | c :: r =>
    let char (c : Char) : Option (Escape × List Char) := some (.literal { char := c }, r)
    match c with
    | 'x' => (hex? verbose 2 r).map fun (l, rest) => (.literal l, rest)
    | 'u' => (hex? verbose 4 r).map fun (l, rest) => (.literal l, rest)
    | 'U' => (hex? verbose 8 r).map fun (l, rest) => (.literal l, rest)
    | 'p' => property? verbose false r
    | 'P' => property? verbose true r
    | 'd' => some (.shorthand .digit false, r)
    | 'D' => some (.shorthand .digit true, r)
    | 's' => some (.shorthand .space false, r)
    | 'S' => some (.shorthand .space true, r)
    | 'w' => some (.shorthand .word false, r)
    | 'W' => some (.shorthand .word true, r)
    | 'a' => char '\x07'
    | 'f' => char '\x0c'
    | 't' => char '\t'
    | 'n' => char '\n'
    | 'r' => char '\r'
    | 'v' => char '\x0b'
    | 'A' => some (.anchor .textStart, r)
    | 'z' => some (.anchor .textEnd, r)
    | 'B' => some (.anchor .notWordBoundary, r)
    | '<' => some (.anchor .wordStart, r)
    | '>' => some (.anchor .wordEnd, r)
    | 'b' => boundary? verbose r
    | c => if isEscapable c then char c else none

def asciiClass? (name : String) : Option AsciiClass :=
  match name with
  | "alnum" => some .alnum
  | "alpha" => some .alpha
  | "ascii" => some .ascii
  | "blank" => some .blank
  | "cntrl" => some .cntrl
  | "digit" => some .digit
  | "graph" => some .graph
  | "lower" => some .lower
  | "print" => some .print
  | "punct" => some .punct
  | "space" => some .space
  | "upper" => some .upper
  | "word" => some .word
  | "xdigit" => some .xdigit
  | _ => none

def bracketClass? : List Char → Option (SetExpr × List Char)
  | ':' :: r =>
    let (negated, r) := match r with
      | '^' :: r => (true, r)
      | r => (false, r)
    match r.dropWhile (· ≠ ':') with
    | ':' :: ']' :: rest =>
      (asciiClass? (String.ofList (r.takeWhile (· ≠ ':')))).map fun c => (.ascii c negated, rest)
    | _ => none
  | _ => none

/-- An item of a set before it is known whether it begins a range. -/
def setItem? (verbose : Bool) : List Char → Option (Escape × List Char)
  | [] => none
  | '\\' :: r => escape? verbose r
  | c :: r => some (.literal { char := c }, r)

def Escape.setExpr? : Escape → Option SetExpr
  | .literal l => some (.literal l)
  | .shorthand c negated => some (.shorthand c negated)
  | .property name negated => some (.property name negated)
  | .anchor _ => none

def Escape.literal? : Escape → Option Literal
  | .literal l => some l
  | _ => none

/-- The character that follows the first one; in verbose mode the one after blanks and after the
sign that opens a comment. -/
def lookAhead (verbose : Bool) : List Char → Option Char
  | [] => none
  | _ :: r =>
    if verbose then
      match r.dropWhile Text.isBlank with
      | '#' :: r' => ((r'.dropWhile Text.isBlank).head?).or r.head?
      | [] => r.head?
      | c :: _ => some c
    else r.head?

/-- Reads one item or one range. -/
def setRange? (verbose : Bool) (s : List Char) : Option (SetExpr × List Char) := do
  let (first, s) ← setItem? verbose s
  let s := skip verbose s
  match s with
  | [] => none
  | '-' :: r =>
    let ahead := lookAhead verbose s
    if ahead = some ']' || ahead = some '-' then some (← first.setExpr?, s)
    else
      let (last, rest) ← setItem? verbose (skip verbose r)
      let low ← first.literal?
      let high ← last.literal?
      if low.char ≤ high.char then some (.range low high, rest) else none
  | s => some (← first.setExpr?, s)

/-- Reads hyphens that stand at the front of a set. -/
def frontHyphens (verbose : Bool) : (fuel : Nat) → List Char → List SetExpr × List Char
  | 0, s => ([], s)
  | fuel + 1, s => match s with
    | '-' :: r =>
      let (items, rest) := frontHyphens verbose fuel (skip verbose r)
      (.literal { char := '-' } :: items, rest)
    | s => ([], s)

/-- Reads what follows an opening bracket: a negation, hyphens, or a closing bracket that counts as
a character because it is the first one. -/
def openSet (verbose : Bool) (s : List Char) : (Bool × List SetExpr) × List Char :=
  let s := skip verbose s
  let (negated, s) := match s with
    | '^' :: r => (true, skip verbose r)
    | s => (false, s)
  let (items, s) := frontHyphens verbose s.length s
  match items, s with
  | [], ']' :: r => ((negated, [.literal { char := ']' }]), skip verbose r)
  | items, s => ((negated, items), s)

def setOperator? : List Char → Option (SetOperator × List Char)
  | '&' :: '&' :: r => some (.inter, r)
  | '-' :: '-' :: r => some (.diff, r)
  | '~' :: '~' :: r => some (.symmDiff, r)
  | _ => none

/-- The operand so far and the operator that waits for its right side. -/
def applyPending (pending : Option (SetOperator × SetExpr)) (items : List SetExpr) : SetExpr :=
  match pending with
  | some (op, left) => .binary op left (.ofItems items)
  | none => .ofItems items

/-- Reads the items of a set up to its closing bracket.  All operators bind alike, from the left. -/
def setBody? (verbose : Bool) : (fuel : Nat) → (pending : Option (SetOperator × SetExpr)) →
    (items : List SetExpr) → List Char → Option (SetExpr × List Char)
  | 0, _, _, _ => none
  | fuel + 1, pending, items, s =>
    match skip verbose s with
    | [] => none
    | ']' :: rest => some (applyPending pending items, rest)
    | '[' :: r =>
      match bracketClass? r with
      | some (item, rest) => setBody? verbose fuel pending (items ++ [item]) rest
      | none =>
        let ((negated, front), r) := openSet verbose r
        match setBody? verbose fuel none front r with
        | some (inner, rest) =>
          setBody? verbose fuel pending (items ++ [.bracketed negated inner]) rest
        | none => none
    | s =>
      match setOperator? s with
      | some (op, rest) => setBody? verbose fuel (some (op, applyPending pending items)) [] rest
      | none =>
        match setRange? verbose s with
        | some (item, rest) => setBody? verbose fuel pending (items ++ [item]) rest
        | none => none

/-- Reads a set after its opening bracket. -/
def set? (verbose : Bool) (s : List Char) : Option (SetExpr × List Char) :=
  let ((negated, front), r) := openSet verbose s
  (setBody? verbose (r.length + 1) none front r).map fun (inner, rest) =>
    (.bracketed negated inner, rest)

def flag? : Char → Option Flag
  | 'i' => some .ignoreCase
  | 'm' => some .multiLine
  | 's' => some .dotMatchesNewline
  | 'U' => some .swapGreed
  | 'u' => some .unicode
  | 'R' => some .crlf
  | 'x' => some .verbose
  | _ => none

/-- Reads flags up to the colon or parenthesis that ends them.  No flag may be repeated, the sign of
negation stands at most once, and a flag follows it. -/
def flags? (changes : FlagChanges) (negated : Bool) : List Char → Option (FlagChanges × List Char)
  | [] => none
  | '-' :: r =>
    if negated || r.head? = some ':' || r.head? = some ')' then none else flags? changes true r
  | c :: r =>
    if c = ':' || c = ')' then some (changes, c :: r)
    else do
      let f ← flag? c
      if changes.any (·.1 = f) then none else flags? (changes ++ [(f, !negated)]) negated r

def verboseAfter (verbose : Bool) (changes : FlagChanges) : Bool :=
  (changes.lookup .verbose).getD verbose

def isNameStart (c : Char) : Bool := c = '_' || Unicode.letters.contains c

def isNameChar (c : Char) : Bool :=
  isNameStart c || c = '.' || c = '[' || c = ']' || Unicode.numbers.contains c

def name? (s : List Char) : Option (List Char × List Char) :=
  let name := s.takeWhile (· ≠ '>')
  match name, s.dropWhile (· ≠ '>') with
  | c :: cs, _ :: rest => if isNameStart c && cs.all isNameChar then some (c :: cs, rest) else none
  | _, _ => none

inductive Opening
  | capture
  | named (name : List Char)
  | scope (changes : FlagChanges)
  | flags (changes : FlagChanges)

def isLookAround (s : List Char) : Bool :=
  (Text.strip? ['?', '='] s).isSome || (Text.strip? ['?', '!'] s).isSome ||
    (Text.strip? ['?', '<', '='] s).isSome || (Text.strip? ['?', '<', '!'] s).isSome

def opening? (verbose : Bool) (s : List Char) : Option (Opening × List Char) :=
  let s := skip verbose s
  if isLookAround s then none
  else match s with
    | '?' :: 'P' :: '<' :: r => (name? r).map fun (name, rest) => (.named name, rest)
    | '?' :: '<' :: r => (name? r).map fun (name, rest) => (.named name, rest)
    | '?' :: r => do
      let (changes, s) ← flags? [] false r
      match s with
      | ':' :: rest => some (.scope changes, rest)
      | ')' :: rest => if changes.isEmpty then none else some (.flags changes, rest)
      | _ => none
    | s => some (.capture, s)

/-- The text that is left, whether blanks count, and the groups seen so far. -/
structure State where
  rest : List Char
  verbose : Bool := false
  groups : Nat := 0
  names : List (List Char) := []

def isRepeatable : Surface → Bool
  | .empty | .flags _ => false
  | _ => true

def greediness : List Char → Bool × List Char
  | '?' :: r => (false, r)
  | s => (true, s)

/-- Applies a repetition to the item read last.  `items` is in reverse order. -/
def repeatLast? (min : Nat) (max : Option Nat) (greedy : Bool) :
    List Surface → Option (List Surface)
  | item :: r => if isRepeatable item then some (.repetition item min max greedy :: r) else none
  | [] => none

def Escape.surface : Escape → Surface
  | .literal l => .literal l
  | .anchor a => .anchor a
  | .shorthand c negated => .set (.shorthand c negated)
  | .property name negated => .set (.property name negated)

/-- Reads one character, escape, set or repetition that begins with `c`. -/
def simple? (verbose : Bool) (c : Char) (r : List Char) (items : List Surface) :
    Option (List Surface × List Char) :=
  match c with
  | '[' => (set? verbose r).map fun (s, rest) => (.set s :: items, rest)
  | '?' =>
    let (greedy, rest) := greediness r
    (repeatLast? 0 (some 1) greedy items).map fun items => (items, rest)
  | '*' =>
    let (greedy, rest) := greediness r
    (repeatLast? 0 none greedy items).map fun items => (items, rest)
  | '+' =>
    let (greedy, rest) := greediness r
    (repeatLast? 1 none greedy items).map fun items => (items, rest)
  | '{' => do
    let ((low, high), rest) ← bounds? verbose r
    let (greedy, rest) := greediness (skip verbose rest)
    some (← repeatLast? low high greedy items, rest)
  | '\\' => (escape? verbose r).map fun (e, rest) => (e.surface :: items, rest)
  | '.' => some (.dot :: items, r)
  | '^' => some (.anchor .lineStart :: items, r)
  | '$' => some (.anchor .lineEnd :: items, r)
  | c => some (.literal { char := c } :: items, r)

mutual
/-- Reads branches up to a closing parenthesis or the end.  Every call consumes a character or ends,
so the length of the text bounds the depth. -/
def branches? : (fuel : Nat) → (done : List Surface) → State → Option (Surface × State)
  | 0, _, _ => none
  | fuel + 1, done, st => do
    let (branch, st) ← sequence? fuel [] st
    match st.rest with
    | '|' :: r => branches? fuel (done ++ [branch]) { st with rest := r }
    | _ => some (.ofBranches (done ++ [branch]), st)

def sequence? : (fuel : Nat) → (items : List Surface) → State → Option (Surface × State)
  | 0, _, _ => none
  | fuel + 1, items, st =>
    match skip st.verbose st.rest with
    | [] => some (.ofItems items.reverse, { st with rest := [] })
    | '|' :: r => some (.ofItems items.reverse, { st with rest := '|' :: r })
    | ')' :: r => some (.ofItems items.reverse, { st with rest := ')' :: r })
    | '(' :: r => do
      let (kind, rest) ← opening? st.verbose r
      let st := { st with rest }
      match kind with
      | .flags changes =>
        sequence? fuel (.flags changes :: items)
          { st with verbose := verboseAfter st.verbose changes }
      | .scope changes =>
        let (body, st') ← group? fuel { st with verbose := verboseAfter st.verbose changes }
        sequence? fuel (.scope changes body :: items) { st' with verbose := st.verbose }
      | .capture =>
        let index := st.groups + 1
        let (body, st') ← group? fuel { st with groups := index }
        sequence? fuel (.capture index body :: items) { st' with verbose := st.verbose }
      | .named name =>
        if st.names.contains name then none
        else
          let index := st.groups + 1
          let (body, st') ← group? fuel { st with groups := index, names := name :: st.names }
          sequence? fuel (.capture index body :: items) { st' with verbose := st.verbose }
    | c :: r => do
      let (items, rest) ← simple? st.verbose c r items
      sequence? fuel items { st with rest }

def group? : (fuel : Nat) → State → Option (Surface × State)
  | 0, _ => none
  | fuel + 1, st => do
    let (body, st) ← branches? fuel [] st
    match st.rest with
    | ')' :: rest => some (body, { st with rest })
    | _ => none
end

end Parser

def nestLimit : Nat := 250

def Surface.ofText? (text : String) : Option Surface := do
  let s := text.toList
  let (surface, st) ← Parser.branches? (3 * s.length + 3) [] { rest := s }
  if st.rest.isEmpty && surface.depth ≤ nestLimit then some surface else none

end Oval.Pattern
