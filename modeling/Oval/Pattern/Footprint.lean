import Std.Data.HashMap
import Oval.Pattern.Basic
import Oval.Text.Utf8

/-! # The memory of a pattern

A pattern is compiled twice to states that read bytes: once to search forward, and once to search
backward from an end.  Each of the two may take only so much memory.  The states are laid out here
without being kept: what counts is how many there are and how many bytes they take.

A state that offers alternatives takes more memory with each of them.  So whatever is linked to such
a state later counts too, and every layout tells whether its last state is one.

Sets beyond ASCII become automata over UTF-8.  States already laid out for a set are found again
through a table in which each key has one slot and drives out the key that was there, so the memory
depends on where in the pattern the set stands.
-/
namespace Oval.Pattern

def sizeLimit : Nat := 10485760

def stateSize : Nat := 32

/-- What each transition of a state with several takes. -/
def transitionSize : Nat := 8

def alternativeSize : Nat := 4

/-- The number of states laid out, and the bytes that they take. -/
structure Layout where
  states : Nat := 0
  bytes : Nat := 0
  deriving DecidableEq, Repr

namespace Layout

def grow (bytes : Nat) (l : Layout) : Option Layout :=
  if l.bytes + bytes ≤ sizeLimit then some { l with bytes := l.bytes + bytes } else none

def add (extra : Nat) (l : Layout) : Option Layout :=
  grow (stateSize + extra) { l with states := l.states + 1 }

def addChoice (alternatives : Nat) (l : Layout) : Option Layout :=
  l.add (alternatives * alternativeSize)

/-- Links the end of a pattern to a state: a new alternative if the end is a choice. -/
def link (isChoice : Bool) (l : Layout) : Option Layout :=
  if isChoice then l.grow alternativeSize else some l

def addMany (n : Nat) (l : Layout) : Option Layout :=
  grow (n * stateSize) { l with states := l.states + n }

end Layout

/-- The hash of a key of bytes and state numbers: for each number, exclusive or, then a
multiplication. -/
def hashOf (key : List Nat) : UInt64 :=
  key.foldl (fun h n => (h ^^^ UInt64.ofNat n) * 1099511628211) 14695981039346656037

/-- States by key.  The hash of a key gives its slot, and a slot holds the key put there last. -/
structure StateTable (size : Nat) where
  filled : Std.HashMap Nat (List Nat × Nat) := {}

namespace StateTable

variable {size : Nat}

def slot (_ : StateTable size) (key : List Nat) : Nat := (hashOf key % UInt64.ofNat size).toNat

def get? (t : StateTable size) (key : List Nat) : Option Nat :=
  match t.filled[t.slot key]? with
  | some (present, state) => if present = key then some state else none
  | none => none

def insert (t : StateTable size) (key : List Nat) (state : Nat) : StateTable size :=
  ⟨t.filled.insert (t.slot key) (key, state)⟩

end StateTable

/-- A layout with the states of a set found so far. -/
structure SetLayout (size : Nat) where
  layout : Layout
  found : StateTable size := {}

/-- The state for a key, laid out anew if it is not found. -/
def SetLayout.state (key : List Nat) (extra : Nat) {size : Nat} (l : SetLayout size) :
    Option (Nat × SetLayout size) :=
  match l.found.get? key with
  | some state => some (state, l)
  | none => do
    let layout ← l.layout.add extra
    some (l.layout.states, ⟨layout, l.found.insert key l.layout.states⟩)

open Text.Utf8 (ByteRange)

/-- A state that is not laid out yet: its transitions in reverse order, each with its target, and a
last one whose target is still open. -/
structure Node where
  closed : List (ByteRange × Nat) := []
  last : Option ByteRange := none

/-- The node with its last transition leading to a state. -/
def Node.close (n : Node) (target : Nat) : Node :=
  match n.last with
  | some range => { closed := (range, target) :: n.closed }
  | none => n

def Node.lay (n : Node) (l : SetLayout 10000) : Option (Nat × SetLayout 10000) :=
  l.state (n.closed.reverse.flatMap fun ((a, b), target) => [a, b, target])
    (n.closed.length * transitionSize)

/-- Lays out a chain of nodes, each the target of the one before; the last one leads to `target`. -/
def layChain (target : Nat) : List Node → SetLayout 10000 → Option (Nat × SetLayout 10000)
  | [], l => some (target, l)
  | n :: below, l => do
    let (next, l) ← layChain target below l
    (n.close next).lay l

/-- Adds a sequence to the chain of the sequence before.  What follows the front that they share is
complete and is laid out. -/
def addSequence (target : Nat) : List ByteRange → List Node → SetLayout 10000 →
    Option (List Node × SetLayout 10000)
  | range :: ranges, n :: below, l =>
    if n.last = some range then do
      let (below, l) ← addSequence target ranges below l
      some (n :: below, l)
    else do
      let (next, l) ← layChain target below l
      some ({ n.close next with last := some range } :: ranges.map fun r => { last := some r }, l)
  | [], chain, l => some (chain, l)
  | ranges, [], l => some (ranges.map fun r => { last := some r }, l)

def addSequences (target : Nat) : List (List ByteRange) → List Node → SetLayout 10000 →
    Option (List Node × SetLayout 10000)
  | [], chain, l => some (chain, l)
  | s :: r, chain, l =>
    match addSequence target s chain l with
    | some (chain, l) => addSequences target r chain l
    | none => none

def sequences (set : CharSet) : List (List ByteRange) :=
  set.ranges.flatMap fun (a, b) => Text.Utf8.sequences a b

/-- A set as an automaton that shares what sequences have in common at the front and at the end. -/
def laySetForward (set : CharSet) (l : Layout) : Option Layout := do
  let target := l.states
  let (chain, l) ← addSequences target (sequences set) [{}] { layout := ← l.add 0 }
  let (_, l) ← layChain target chain l
  some l.layout

/-- Lays out the ranges of a sequence, the last byte being read first; each leads to the one
before. -/
def layRanges (target : Nat) : List ByteRange → SetLayout 1000 → Option (SetLayout 1000)
  | [], l => some l
  | (a, b) :: r, l =>
    match l.state [target, a, b] 0 with
    | some (state, l) => layRanges state r l
    | none => none

def laySequences (target : Nat) : List (List ByteRange) → SetLayout 1000 → Option (SetLayout 1000)
  | [], l => some l
  | s :: r, l =>
    match layRanges target s l with
    | some l => laySequences target r l
    | none => none

/-- A set as a choice of its sequences, which share their ends. -/
def laySetBackward (set : CharSet) (l : Layout) : Option Layout := do
  let all := sequences set
  let l ← l.addChoice all.length
  let target := l.states
  let l ← laySequences target all { layout := ← l.add 0 }
  some l.layout

def laySet (backward : Bool) (set : CharSet) (l : Layout) : Option Layout :=
  if set.isAscii then do (← l.add 0).add (set.ranges.length * transitionSize)
  else if backward then laySetBackward set l
  else laySetForward set l

def byFirst (texts : List (List Nat)) : List (List (List Nat)) :=
  let firsts := (texts.filterMap List.head?).eraseDups
  firsts.map fun b => (texts.filter fun t => t.head? = some b).map List.tail

def betweenEmpty (texts : List (List Nat)) : List (List (List Nat)) :=
  texts.foldr (fun t groups =>
    match t, groups with
    | [], groups => [] :: groups
    | t, g :: gs => (t :: g) :: gs
    | t, [] => [[t]]) [[]]

/-- Lays out texts that share what they have in common at the front, but not across a text that has
ended, which is preferred to what comes after it.  `depth` is more than the longest text. -/
def layTexts : (depth : Nat) → List (List Nat) → Layout → Option Layout
  | 0, _, l => some l
  | depth + 1, texts, l =>
    if texts.all List.isEmpty then some l
    else do
      let ended := texts.takeWhile List.isEmpty
      let texts := ended.take 1 ++ texts.dropWhile List.isEmpty
      let groups := (betweenEmpty texts).map byFirst
      let l ← groups.foldlM (fun l children => do
        let l ← children.foldlM (fun l texts => layTexts depth texts l) l
        match children.length with
        | 0 => some l
        | 1 => l.add 0
        | n => l.add (n * transitionSize)) l
      l.addChoice ((groups.filter fun children => !children.isEmpty).length + (groups.length - 1))

/-- The bytes of a literal in the order in which they are read. -/
def bytesOf (backward : Bool) (cs : List Char) : List Nat :=
  let bytes := cs.flatMap fun c => Text.Utf8.encode c.toNat
  if backward then bytes.reverse else bytes

def text? : Pattern → Option (List Char)
  | literal cs => some cs
  | _ => none

/-- Lays out alternatives that are all literals. -/
def layLiterals (backward : Bool) (literals : List (List Char)) (l : Layout) : Option Layout := do
  let texts := literals.map (bytesOf backward)
  layTexts (texts.foldl (fun n t => max n t.length) 0 + 1) texts (← l.add 0)

/-- A layout, and whether the state at its end is a choice. -/
abbrev Laid := Layout × Bool

/-- Lays out a pattern `n` times more after one that ended as `isChoice` says. -/
def layTimes (lay : Layout → Option Laid) : (n : Nat) → Laid → Option Laid
  | 0, laid => some laid
  | n + 1, (l, isChoice) =>
    match lay l with
    | some (l, next) =>
      match l.link isChoice with
      | some l => layTimes lay n (l, next)
      | none => none
    | none => none

def layExactly (lay : Layout → Option Laid) : (n : Nat) → Layout → Option Laid
  | 0, l => (l.add 0).map fun l => (l, false)
  | n + 1, l => (lay l).bind (layTimes lay n)

/-- Lays out a pattern up to `n` times more; each time has a choice to leave. -/
def layOptional (lay : Layout → Option Laid) : (n : Nat) → Laid → Option Laid
  | 0, laid => some laid
  | n + 1, (l, isChoice) =>
    match (do lay (← (← l.addChoice 2).link isChoice)) with
    | some laid => layOptional lay n laid
    | none => none

def layUnbounded (lay : Layout → Option Laid) (takesSome : Bool) (min : Nat) (l : Layout) :
    Option Laid := do
  match min with
  | 0 =>
    if takesSome then
      let (l, isChoice) ← lay (← l.addChoice 1)
      some (← l.link isChoice, true)
    else
      let (l, isChoice) ← lay l
      let l ← l.link isChoice
      some (← (← (← l.addChoice 2).addChoice 2).add 0, false)
  | 1 =>
    let (l, isChoice) ← lay l
    some (← (← l.link isChoice).addChoice 1, true)
  | n + 2 =>
    let (l, isChoice) ← layExactly lay (n + 2) l
    some (← (← l.link isChoice).addChoice 1, true)

def layRepetition (lay : Layout → Option Laid) (takesSome : Bool) (min : Nat) (max : Option Nat)
    (l : Layout) : Option Laid := do
  match max with
  | none => layUnbounded lay takesSome min l
  | some max =>
    if min = 0 && max = 1 then
      let (l, isChoice) ← lay (← l.addChoice 2)
      some (← (← l.add 0).link isChoice, false)
    else if min = max then layExactly lay min l
    else
      let (l, isChoice) ← layExactly lay min l
      let (l, isChoice) ← layOptional lay (max - min) (← l.add 0, isChoice)
      some (← l.link isChoice, false)

mutual
def lay (backward : Bool) : Pattern → Layout → Option Laid
  | empty, l => (l.add 0).map fun l => (l, false)
  | literal cs, l => (l.addMany (bytesOf false cs).length).map fun l => (l, false)
  | oneOf set, l => (laySet backward set l).map fun l => (l, false)
  | look _, l => (l.add 0).map fun l => (l, false)
  | capture _ body, l =>
    if backward then lay backward body l
    else do
      let (l, isChoice) ← lay backward body (← l.add 0)
      some (← (← l.add 0).link isChoice, false)
  | repetition body min max _, l =>
    layRepetition (lay backward body) (body.least?.any (0 < ·)) min max l
  | concat ps, l => layAll backward ps none l
  | alternation ps, l =>
    match ps.mapM text? with
    | some literals => (layLiterals backward literals l).map fun l => (l, false)
    | none => (layBranches backward 0 ps l).map fun l => (l, false)

/-- Lays out patterns one after the other, after one that ended as `isChoice` says, if there is
one. -/
def layAll (backward : Bool) : List Pattern → (isChoice : Option Bool) → Layout → Option Laid
  | [], isChoice, l => some (l, isChoice.getD false)
  | p :: ps, isChoice, l =>
    match lay backward p l with
    | some (l, next) =>
      match l.link (isChoice.getD false) with
      | some l => layAll backward ps (some next) l
      | none => none
    | none => none

def layBranches (backward : Bool) (index : Nat) : List Pattern → Layout → Option Layout
  | [], l => some l
  | p :: ps, l =>
    match (do
      let (l, isChoice) ← lay backward p l
      let l ← if index = 1 then (← l.addChoice 0).add 0 else some l
      (← l.link isChoice).grow alternativeSize) with
    | some l => layBranches backward (index + 1) ps l
    | none => none
end

mutual
/-- The pattern read from its end, without groups. -/
def reversed : Pattern → Pattern
  | capture _ body => body.reversed
  | repetition body min max greedy => repetition body.reversed min max greedy
  | concat ps => concat (reversedOnto [] ps)
  | alternation ps => alternation (eachReversed ps)
  | p => p

/-- The reversed patterns, the last one first, in front of others. -/
def reversedOnto (done : List Pattern) : List Pattern → List Pattern
  | [] => done
  | p :: ps => reversedOnto (p.reversed :: done) ps

def eachReversed : List Pattern → List Pattern
  | [] => []
  | p :: ps => p.reversed :: eachReversed ps
end

/-- Lays out what comes before a pattern in the search for it: nothing if matches begin only at the
end of the text from which the search starts, else a loop over all bytes. -/
def layEntry (anchored : Bool) (l : Layout) : Option Layout := do
  if anchored then l.add 0
  else (← (← l.addChoice 2).add 0).add transitionSize

/-- The whole layout for one direction, with the state in which a match ends. -/
def layWhole (backward : Bool) (p : Pattern) : Option Layout := do
  let l ← layEntry (p.opensWith (if backward then .textEnd else .textStart)) {}
  let (l, isChoice) ← lay backward (if backward then p else .capture 0 p) l
  (← l.add 0).link isChoice

def manyLiterals : Nat := 3000

def isManyLiterals : Pattern → Bool
  | alternation ps => manyLiterals ≤ ps.length && (ps.mapM text?).isSome
  | _ => false

/-- Whether a pattern keeps within the limit in both directions. -/
def fits (p : Pattern) : Bool :=
  p.isManyLiterals || ((layWhole false p).isSome && (layWhole true p.reversed).isSome)

end Oval.Pattern
