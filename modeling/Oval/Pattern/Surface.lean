/-! # Patterns as written

The tree of a pattern text, before flags are applied and names are looked up.
-/
namespace Oval.Pattern

inductive Flag
  | ignoreCase
  | multiLine
  | dotMatchesNewline
  | swapGreed
  | unicode
  | crlf
  | verbose
  deriving DecidableEq, Repr

abbrev FlagChanges := List (Flag × Bool)

/-- A single character.  `byte` marks one written as `\x` with two digits, which stands for a byte
where Unicode is off. -/
structure Literal where
  char : Char
  byte : Bool := false
  deriving DecidableEq, Repr

inductive Anchor
  | lineStart
  | lineEnd
  | textStart
  | textEnd
  | wordBoundary
  | notWordBoundary
  | wordStart
  | wordEnd
  | wordStartHalf
  | wordEndHalf
  deriving DecidableEq, Repr

inductive ShorthandClass
  | digit
  | space
  | word
  deriving DecidableEq, Repr

inductive AsciiClass
  | alnum
  | alpha
  | ascii
  | blank
  | cntrl
  | digit
  | graph
  | lower
  | print
  | punct
  | space
  | upper
  | word
  | xdigit
  deriving DecidableEq, Repr

inductive PropertyName
  | named (name : List Char)
  | valued (name value : List Char)
  deriving DecidableEq, Repr

inductive SetOperator
  | inter
  | diff
  | symmDiff
  deriving DecidableEq, Repr

inductive SetExpr
  | empty
  | literal (l : Literal)
  | range (first last : Literal)
  | ascii (c : AsciiClass) (negated : Bool)
  | shorthand (c : ShorthandClass) (negated : Bool)
  | property (name : PropertyName) (negated : Bool)
  | bracketed (negated : Bool) (inner : SetExpr)
  | union (items : List SetExpr)
  | binary (op : SetOperator) (left right : SetExpr)

/-- The set of several items; one item stands for itself. -/
def SetExpr.ofItems : List SetExpr → SetExpr
  | [] => empty
  | [item] => item
  | items => union items

inductive Surface
  | empty
  | flags (changes : FlagChanges)
  | literal (l : Literal)
  | dot
  | anchor (a : Anchor)
  | set (s : SetExpr)
  | repetition (body : Surface) (min : Nat) (max : Option Nat) (greedy : Bool)
  | capture (index : Nat) (body : Surface)
  | scope (changes : FlagChanges) (body : Surface)
  | alternation (branches : List Surface)
  | concat (items : List Surface)

namespace Surface

def ofItems : List Surface → Surface
  | [] => empty
  | [item] => item
  | items => concat items

def ofBranches : List Surface → Surface
  | [] => empty
  | [branch] => branch
  | branches => alternation branches

end Surface

mutual
/-- How deep brackets, operators and unions nest in a set. -/
def SetExpr.depth : SetExpr → Nat
  | .bracketed _ inner => inner.depth + 1
  | .union items => SetExpr.depthOf items + 1
  | .binary _ left right => max left.depth right.depth + 1
  | .empty | .literal _ | .range .. | .ascii .. | .shorthand .. | .property .. => 0

def SetExpr.depthOf : List SetExpr → Nat
  | [] => 0
  | item :: r => max item.depth (SetExpr.depthOf r)
end

mutual
/-- How deep repetitions, groups, alternations, sequences and sets nest. -/
def Surface.depth : Surface → Nat
  | .set s => s.depth
  | .repetition body .. => body.depth + 1
  | .capture _ body => body.depth + 1
  | .scope _ body => body.depth + 1
  | .alternation branches => Surface.depthOf branches + 1
  | .concat items => Surface.depthOf items + 1
  | .empty | .flags _ | .literal _ | .dot | .anchor _ => 0

def Surface.depthOf : List Surface → Nat
  | [] => 0
  | item :: r => max item.depth (Surface.depthOf r)
end

end Oval.Pattern
