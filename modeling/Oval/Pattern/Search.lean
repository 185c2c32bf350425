import Oval.Pattern.Meaning
import Oval.Pattern.Program

/-! # Searching

All ways of matching advance together, one character at a time, in the order of preference.  No
instruction is entered twice at one place of the text, so the time grows with the length of the
text times the size of the program.
-/
namespace Oval.Pattern

abbrev Slots := Array (Option Nat)

/-- A place in a text: its number, the character before it, and the text after it. -/
structure Place where
  index : Nat
  before : Option Char
  rest : List Char

namespace Place

def start (text : List Char) : Place := ⟨0, none, text⟩

def after (p : Place) : Option Char := p.rest.head?

/-- The place `n` characters further on, but not beyond the end. -/
def advance : (n : Nat) → Place → Place
  | 0, p => p
  | n + 1, p =>
    match p.rest with
    | [] => p
    | c :: r => advance n ⟨p.index + 1, some c, r⟩

def slice (p : Place) (first last : Nat) : List Char :=
  (p.rest.drop (first - p.index)).take (last - first)

end Place

/-- Whether there is a character of words; among ASCII the two kinds of words are the same. -/
def isWord (unicode : Bool) (c : Option Char) : Bool :=
  c.any fun c => (wordSet (unicode && 128 ≤ c.toNat)).contains c

/-- Whether the place is what the pattern asks for. -/
def Look.holds (p : Place) : Look → Bool
  | textStart => p.before.isNone
  | textEnd => p.after.isNone
  | lineStart false => p.before.isNone || p.before = some '\n'
  | lineEnd false => p.after.isNone || p.after = some '\n'
  | lineStart true =>
    p.before.isNone || p.before = some '\n' || (p.before = some '\r' && p.after ≠ some '\n')
  | lineEnd true =>
    p.after.isNone || p.after = some '\r' || (p.after = some '\n' && p.before ≠ some '\r')
  | boundary kind unicode =>
    let before := isWord unicode p.before
    let after := isWord unicode p.after
    match kind with
    | .between => before != after
    | .notBetween => before == after
    | .start => !before && after
    | .finish => before && !after
    | .startHalf => !before
    | .finishHalf => !after

/-- An instruction that waits for a character, or the end of a match. -/
structure Thread where
  address : Nat
  slots : Slots

/-- The threads at one place, preferred ones last.  `entered` holds for each instruction the round
in which it was entered last; every place is a round of its own. -/
structure Front where
  round : Nat
  entered : Array Nat
  threads : List Thread

def Front.start (p : Program) : Front := ⟨1, Array.replicate p.code.size 0, []⟩

def Front.next (front : Front) : Front := { front with round := front.round + 1, threads := [] }

/-- Follows instructions that take no character, from the first of the waiting addresses on.  Each
instruction is entered at most once in a round and has at most two successors, which bounds the
number of steps. -/
def enter (p : Program) (place : Place) : (steps : Nat) → (waiting : List (Nat × Slots)) → Front →
    Front
  | 0, _, front => front
  | _ + 1, [], front => front
  | steps + 1, (address, slots) :: waiting, front =>
    if front.entered.getD address front.round = front.round then enter p place steps waiting front
    else
      let front := { front with entered := front.entered.setIfInBounds address front.round }
      match p.code[address]? with
      | some (.split preferred other) =>
        enter p place steps ((preferred, slots) :: (other, slots) :: waiting) front
      | some (.look l next) =>
        enter p place steps (if l.holds place then (next, slots) :: waiting else waiting) front
      | some (.save slot next) =>
        enter p place steps ((next, slots.setIfInBounds slot (some place.index)) :: waiting) front
      | some (.oneOf ..) | some .accept =>
        enter p place steps waiting { front with threads := ⟨address, slots⟩ :: front.threads }
      | none => enter p place steps waiting front

def enterAt (p : Program) (place : Place) (address : Nat) (slots : Slots) (front : Front) : Front :=
  enter p place (2 * p.code.size + 2) [(address, slots)] front

/-- Moves the threads, preferred ones first, over the character after the place.  A thread that has
matched ends the list: those after it are less preferred. -/
def step (p : Program) (here next : Place) : List Thread → Front → Option Slots →
    Front × Option Slots
  | [], front, best => (front, best)
  | t :: r, front, best =>
    match p.code[t.address]? with
    | some .accept => (front, some t.slots)
    | some (.oneOf set target) =>
      if here.after.any set.contains then
        step p here next r (enterAt p next target t.slots front) best
      else step p here next r front best
    | _ => step p here next r front best

/-- Runs over the text, which begins after the character `before`, to its end.  As long as nothing
has matched, a new run begins at every place. -/
def runFrom (p : Program) (index : Nat) (before : Option Char) (front : Front)
    (best : Option Slots) : List Char → Option Slots
  | [] =>
    let here : Place := ⟨index, before, []⟩
    let front := begin? here
    let threads := front.threads.reverse
    (step p here here threads front.next best).2
  | c :: r =>
    let here : Place := ⟨index, before, c :: r⟩
    let front := begin? here
    if front.threads.isEmpty && best.isSome then best
    else
      let threads := front.threads.reverse
      let (front, best) := step p here ⟨index + 1, some c, r⟩ threads front.next best
      runFrom p (index + 1) (some c) front best r
where
  begin? (here : Place) : Front :=
    if best.isNone then enterAt p here p.start (Array.replicate p.slots none) front else front

/-- Where a match was looked for, and what was found. -/
structure Found where
  origin : Place
  slots : Slots

namespace Found

def bounds? (m : Found) (group : Nat) : Option (Nat × Nat) := do
  some (← m.slots.getD (2 * group) none, ← m.slots.getD (2 * group + 1) none)

def text? (m : Found) (group : Nat) : Option String :=
  (m.bounds? group).map fun (first, last) => String.ofList (m.origin.slice first last)

end Found

def find? (p : Program) (place : Place) : Option Found :=
  (runFrom p place.index place.before (Front.start p) none place.rest).map fun slots =>
    ⟨place, slots⟩

/-- The next match at or after a place.  An empty match at the end of the last match is passed
over. -/
def next? (p : Program) (place : Place) (lastEnd : Option Nat) : Option Found := do
  let found ← find? p place
  let (first, last) ← found.bounds? 0
  if first = last && lastEnd = some last then
    if place.rest.isEmpty then none else find? p (place.advance 1)
  else some found

/-- All matches from left to right, none overlapping another.  There is at most one for each place,
so the number of places bounds the search. -/
def matchesFrom (p : Program) : (places : Nat) → Place → (lastEnd : Option Nat) → List Found
  | 0, _, _ => []
  | places + 1, place, lastEnd =>
    match next? p place lastEnd with
    | none => []
    | some found =>
      match found.bounds? 0 with
      | none => []
      | some (_, last) =>
        found :: matchesFrom p places (found.origin.advance (last - found.origin.index)) (some last)

def allMatches (p : Program) (text : List Char) : List Found :=
  matchesFrom p (text.length + 1) (.start text) none

/-- For each match the text of the first group, or of the whole match if the group took no part. -/
def captured (p : Pattern) (text : String) : List String :=
  (allMatches (p.program 1) text.toList).filterMap fun m => (m.text? 1).or (m.text? 0)

def occursIn (p : Pattern) (text : String) : Bool :=
  (find? (p.program 0) (.start text.toList)).isSome

end Oval.Pattern
