import Oval.Pattern.Basic
import Oval.Pattern.Surface
import Oval.Unicode.CaseFold
import Oval.Unicode.Property

/-! # The meaning of patterns as written

Applies the flags of a pattern text and looks up the names in it.  `none` is a text that names
something unknown, or that could match bytes that are no text.
-/
namespace Oval.Pattern

structure Flags where
  ignoreCase : Bool := false
  multiLine : Bool := false
  dotMatchesNewline : Bool := false
  swapGreed : Bool := false
  unicode : Bool := true
  crlf : Bool := false
  deriving DecidableEq, Repr

def Flags.set (f : Flags) (flag : Flag) (value : Bool) : Flags :=
  match flag with
  | .ignoreCase => { f with ignoreCase := value }
  | .multiLine => { f with multiLine := value }
  | .dotMatchesNewline => { f with dotMatchesNewline := value }
  | .swapGreed => { f with swapGreed := value }
  | .unicode => { f with unicode := value }
  | .crlf => { f with crlf := value }
  | .verbose => f

def Flags.apply (f : Flags) (changes : FlagChanges) : Flags :=
  changes.foldl (fun f (flag, value) => f.set flag value) f

def asciiSet : AsciiClass → CharSet
  | .alnum => ⟨[(0x30, 0x39), (0x41, 0x5A), (0x61, 0x7A)]⟩
  | .alpha => ⟨[(0x41, 0x5A), (0x61, 0x7A)]⟩
  | .ascii => ⟨[(0, 0x7F)]⟩
  | .blank => ⟨[(0x09, 0x09), (0x20, 0x20)]⟩
  | .cntrl => ⟨[(0, 0x1F), (0x7F, 0x7F)]⟩
  | .digit => ⟨[(0x30, 0x39)]⟩
  | .graph => ⟨[(0x21, 0x7E)]⟩
  | .lower => ⟨[(0x61, 0x7A)]⟩
  | .print => ⟨[(0x20, 0x7E)]⟩
  | .punct => ⟨[(0x21, 0x2F), (0x3A, 0x40), (0x5B, 0x60), (0x7B, 0x7E)]⟩
  | .space => ⟨[(0x09, 0x0D), (0x20, 0x20)]⟩
  | .upper => ⟨[(0x41, 0x5A)]⟩
  | .word => ⟨[(0x30, 0x39), (0x41, 0x5A), (0x5F, 0x5F), (0x61, 0x7A)]⟩
  | .xdigit => ⟨[(0x30, 0x39), (0x41, 0x46), (0x61, 0x66)]⟩

def wordSet (unicode : Bool) : CharSet :=
  if unicode then Unicode.wordCharacters else asciiSet .word

def shorthandSet (unicode : Bool) : ShorthandClass → CharSet
  | .digit => if unicode then Unicode.decimalDigits else asciiSet .digit
  | .space => if unicode then Unicode.blanks else asciiSet .space
  | .word => wordSet unicode

def foldAscii (s : CharSet) : CharSet :=
  CharSet.normal ⟨s.ranges ++ (List.range 26).flatMap fun i =>
    (if s.containsCode (0x41 + i) then [(0x61 + i, 0x61 + i)] else []) ++
      (if s.containsCode (0x61 + i) then [(0x41 + i, 0x41 + i)] else [])⟩

def Flags.fold (f : Flags) (s : CharSet) : CharSet :=
  if !f.ignoreCase then s.normal else if f.unicode then Unicode.foldCase s else foldAscii s

/-- With Unicode off a set may hold ASCII characters only. -/
def Flags.admit? (f : Flags) (s : CharSet) : Option CharSet :=
  if f.unicode || s.isAscii then some s else none

/-- Adds the other cases, then takes the complement if the set is negated. -/
def Flags.finish? (f : Flags) (negated : Bool) (s : CharSet) : Option CharSet :=
  f.admit? (if negated then (f.fold s).complement else f.fold s)

def propertySet? : PropertyName → Option CharSet
  | .named name => Unicode.named? name
  | .valued name value => Unicode.valued? name value

def combine (op : SetOperator) (s t : CharSet) : CharSet :=
  match op with
  | .inter => s.inter t
  | .diff => s.diff t
  | .symmDiff => s.symmDiff t

/-- A literal in a set must be a single byte if Unicode is off. -/
def Flags.code? (f : Flags) (l : Literal) : Option Nat :=
  if f.unicode || l.char.toNat < 128 then some l.char.toNat else none

mutual
def Flags.set? (f : Flags) : SetExpr → Option CharSet
  | .empty => some .empty
  | .literal l => (f.code? l).map fun n => .ofRange n n
  | .range first last => do some (.ofRange (← f.code? first) (← f.code? last))
  | .ascii c negated => f.finish? negated (asciiSet c)
  | .shorthand c negated =>
    f.admit? (if negated then (shorthandSet f.unicode c).complement else shorthandSet f.unicode c)
  | .property name negated =>
    if f.unicode then (propertySet? name).bind (f.finish? negated) else none
  | .bracketed negated inner => (f.set? inner).bind (f.finish? negated)
  | .union items => f.unionOf? items
  | .binary op left right => do
    some (combine op (f.fold (← f.set? left)) (f.fold (← f.set? right)))

def Flags.unionOf? (f : Flags) : List SetExpr → Option CharSet
  | [] => some .empty
  | item :: r => do some (CharSet.union (← f.set? item) (← f.unionOf? r))
end

/-- With Unicode off a byte above 127 is no character, and other characters have no cases. -/
def Flags.literal? (f : Flags) (l : Literal) : Option Pattern :=
  if !f.unicode && l.byte && l.char.toNat ≥ 128 then none
  else if !f.ignoreCase || !f.unicode && l.char.toNat ≥ 128 then some (.literal [l.char])
  else some (.ofSet (f.fold (.ofChar l.char)))

def Flags.dot? (f : Flags) : Option Pattern :=
  if !f.unicode then none
  else if f.dotMatchesNewline then some (.ofSet .full)
  else if f.crlf then some (.ofSet (CharSet.complement ⟨[(0x0A, 0x0A), (0x0D, 0x0D)]⟩))
  else some (.ofSet (CharSet.complement ⟨[(0x0A, 0x0A)]⟩))

def Flags.look (f : Flags) : Anchor → Look
  | .lineStart => if f.multiLine then .lineStart f.crlf else .textStart
  | .lineEnd => if f.multiLine then .lineEnd f.crlf else .textEnd
  | .textStart => .textStart
  | .textEnd => .textEnd
  | .wordBoundary => .boundary .between f.unicode
  | .notWordBoundary => .boundary .notBetween f.unicode
  | .wordStart => .boundary .start f.unicode
  | .wordEnd => .boundary .finish f.unicode
  | .wordStartHalf => .boundary .startHalf f.unicode
  | .wordEndHalf => .boundary .finishHalf f.unicode

mutual
/-- The pattern of a tree under flags, with the flags that hold after it. -/
def ofSurface? (f : Flags) : Surface → Option (Pattern × Flags)
  | .empty => some (.empty, f)
  | .flags changes => some (.empty, f.apply changes)
  | .literal l => (f.literal? l).map fun p => (p, f)
  | .dot => f.dot?.map fun p => (p, f)
  | .anchor a => some (.look (f.look a), f)
  | .set s => (f.set? s).map fun s => (.ofSet s, f)
  | .repetition body min max greedy => do
    let (p, f) ← ofSurface? f body
    some (.ofRepetition p min max (greedy ^^ f.swapGreed), f)
  | .capture index body => (ofSurface? f body).map fun (p, _) => (.capture index p, f)
  | .scope changes body => (ofSurface? (f.apply changes) body).map fun (p, _) => (p, f)
  | .alternation items => do
    let (ps, f) ← ofSurfaces? f [] items
    some (.ofAlternation ps, f)
  | .concat items => do
    let (ps, f) ← ofSurfaces? f [] items
    some (.ofConcat ps, f)

/-- The patterns of several trees, each under the flags that hold after the one before; `done` are
those already read, the last one first. -/
def ofSurfaces? (f : Flags) (done : List Pattern) : List Surface → Option (List Pattern × Flags)
  | [] => some (done.reverse, f)
  | item :: r =>
    match ofSurface? f item with
    | some (p, f) => ofSurfaces? f (p :: done) r
    | none => none
end

end Oval.Pattern
