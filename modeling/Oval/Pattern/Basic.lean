import Oval.Unicode.CharSet

/-! # Patterns

The meaning of a pattern text, with every flag applied and every class a set of characters.
Alternatives and repetitions are ordered, the preferred way first.

Patterns are built in a normal form: sequences and alternations are flat, literals that stand side
by side are one, alternatives of single characters are a set, and what alternatives have in common
at the front stands before them.
-/
namespace Oval

/-- What a boundary asks of the character before it and of the one after it. -/
inductive Pattern.Boundary
  | between
  | notBetween
  | start
  | finish
  | startHalf
  | finishHalf
  deriving DecidableEq, Repr

inductive Pattern.Look
  | textStart
  | textEnd
  | lineStart (crlf : Bool)
  | lineEnd (crlf : Bool)
  | boundary (kind : Pattern.Boundary) (unicode : Bool)
  deriving DecidableEq, Repr

inductive Pattern
  | empty
  | literal (chars : List Char)
  | oneOf (set : CharSet)
  | look (l : Pattern.Look)
  | capture (index : Nat) (body : Pattern)
  | repetition (body : Pattern) (min : Nat) (max : Option Nat) (greedy : Bool)
  | concat (parts : List Pattern)
  | alternation (branches : List Pattern)
  deriving Inhabited

namespace Pattern

mutual
def same : Pattern → Pattern → Bool
  | empty, empty => true
  | literal a, literal b => a = b
  | oneOf s, oneOf t => s = t
  | look l, look m => l = m
  | capture i p, capture j q => i = j && same p q
  | repetition p min max greedy, repetition q min' max' greedy' =>
    same p q && min = min' && max = max' && greedy = greedy'
  | concat ps, concat qs => sameAll ps qs
  | alternation ps, alternation qs => sameAll ps qs
  | _, _ => false

def sameAll : List Pattern → List Pattern → Bool
  | [], [] => true
  | p :: ps, q :: qs => same p q && sameAll ps qs
  | _, _ => false
end

mutual
/-- Whether every match is empty. -/
def takesNothing : Pattern → Bool
  | empty | look _ => true
  | literal _ | oneOf _ => false
  | capture _ body => body.takesNothing
  | repetition body .. => body.takesNothing
  | concat ps => allTakeNothing ps
  | alternation ps => allTakeNothing ps

def allTakeNothing : List Pattern → Bool
  | [] => true
  | p :: ps => p.takesNothing && allTakeNothing ps
end

mutual
/-- The fewest characters of a match, unless a part of the pattern has no match. -/
def least? : Pattern → Option Nat
  | empty | look _ => some 0
  | literal cs => some cs.length
  | oneOf set => if set.ranges.isEmpty then none else some 1
  | capture _ body => body.least?
  | repetition body min _ _ => body.least?.map (min * ·)
  | concat ps => leastSum? ps
  | alternation ps => leastOf? ps

def leastSum? : List Pattern → Option Nat
  | [] => some 0
  | p :: ps => do some ((← p.least?) + (← leastSum? ps))

def leastOf? : List Pattern → Option Nat
  | [] => none
  | [p] => p.least?
  | p :: ps => do some (min (← p.least?) (← leastOf? ps))
end

mutual
/-- Whether every match begins where `l` holds, as far as this can be seen from the looks that come
before the first character. -/
def opensWith (l : Look) : Pattern → Bool
  | empty | literal _ | oneOf _ => false
  | look m => m = l
  | capture _ body => body.opensWith l
  | repetition body min _ _ => 0 < min && body.opensWith l
  | concat ps => frontOpensWith l ps
  | alternation ps => allOpenWith l ps

def frontOpensWith (l : Look) : List Pattern → Bool
  | [] => false
  | p :: ps => p.opensWith l || (p.takesNothing && frontOpensWith l ps)

def allOpenWith (l : Look) : List Pattern → Bool
  | [] => true
  | p :: ps => p.opensWith l && allOpenWith l ps
end

/-- One character of a set; a set of one character is a literal.  Surrogates are no characters. -/
def ofSet (set : CharSet) : Pattern :=
  let set := set.scalars
  match set.ranges with
  | [(a, b)] => if a = b then literal [Char.ofNat a] else oneOf set
  | _ => oneOf set

/-- A repetition of what takes nothing needs at most one round. -/
def ofRepetition (body : Pattern) (min : Nat) (max : Option Nat) (greedy : Bool) : Pattern :=
  let (min, max) :=
    if body.takesNothing then (Nat.min min 1, some (Nat.min (max.getD 1) 1)) else (min, max)
  if min = 0 && max = some 0 then empty
  else if min = 1 && max = some 1 then body
  else repetition body min max greedy

def parts : Pattern → List Pattern
  | empty => []
  | concat ps => ps
  | p => [p]

/-- Puts a part in front of others, as one literal if both are literals. -/
def joinLiteral (p : Pattern) (ps : List Pattern) : List Pattern :=
  match p, ps with
  | literal a, literal b :: r => literal (a ++ b) :: r
  | p, ps => p :: ps

def ofConcat (ps : List Pattern) : Pattern :=
  match (ps.flatMap parts).foldr joinLiteral [] with
  | [] => empty
  | [p] => p
  | ps => concat ps

def branches : Pattern → List Pattern
  | alternation ps => ps
  | p => [p]

def character? : Pattern → Option CharSet
  | literal [c] => some (.ofChar c)
  | _ => none

def set? : Pattern → Option CharSet
  | oneOf set => some set
  | _ => none

def union? (ps : List Pattern) : Option CharSet :=
  ((ps.mapM character?).or (ps.mapM set?)).map fun sets =>
    CharSet.normal ⟨sets.flatMap CharSet.ranges⟩

/-- Flat alternatives with nothing in common at the front. -/
def ofBranches : List Pattern → Pattern
  | [] => oneOf .empty
  | [p] => p
  | ps =>
    match union? ps with
    | some set => ofSet set
    | none => alternation ps

def sequence? : Pattern → Option (List Pattern)
  | concat ps => some ps
  | _ => none

/-- What two sequences have in common at the front. -/
def commonFront : List Pattern → List Pattern → List Pattern
  | p :: ps, q :: qs => if same p q then p :: commonFront ps qs else []
  | _, _ => []

/-- Alternatives, the preferred one first.  If all are sequences, their common front is taken out;
after that they have nothing more in common. -/
def ofAlternation (ps : List Pattern) : Pattern :=
  let ps := ps.flatMap branches
  match ps.mapM sequence? with
  | some (first :: second :: others) =>
    let front := (second :: others).foldl commonFront first
    if front.isEmpty then ofBranches ps
    else
      let rests := (first :: second :: others).map fun s => ofConcat (s.drop front.length)
      ofConcat (front ++ [ofBranches (rests.flatMap branches)])
  | _ => ofBranches ps

end Pattern
end Oval
