import Oval.Pattern.Basic

/-! # Compiled patterns

A pattern is compiled to instructions that name their successors.  Code is laid out from the end:
each pattern is compiled for the address that follows it, so only the head of a loop is filled in
later.
-/
namespace Oval.Pattern

inductive Instr
  | oneOf (set : CharSet) (next : Nat)
  | look (l : Look) (next : Nat)
  | split (preferred other : Nat)
  | save (slot : Nat) (next : Nat)
  | accept
  deriving Repr

/-- Instructions and the address at which a run begins. -/
structure Program where
  code : Array Instr
  start : Nat
  slots : Nat
  deriving Repr

/-- Code under construction: the instructions and the address of the last pattern compiled. -/
structure Code where
  instrs : Array Instr
  entry : Nat

namespace Code

def push (c : Code) (i : Instr) : Code :=
  match c with
  | ⟨instrs, _⟩ =>
    let entry := instrs.size
    ⟨instrs.push i, entry⟩

def choice (greedy : Bool) (body exit : Nat) : Instr :=
  if greedy then .split body exit else .split exit body

def times (f : Code → Code) : Nat → Code → Code
  | 0, c => c
  | n + 1, c => times f n (f c)

/-- A body that may be left out, in front of the code compiled last; without it `exit` follows. -/
def optional (body : Code → Code) (greedy : Bool) (exit : Nat) (c : Code) : Code :=
  let c := body c
  c.push (choice greedy c.entry exit)

def plus (body : Code → Code) (greedy : Bool) (c : Code) : Code :=
  let exit := c.entry
  let head := c.instrs.size
  match body (c.push .accept) with
  | ⟨instrs, entry⟩ => ⟨instrs.setIfInBounds head (choice greedy entry exit), entry⟩

end Code

mutual
/-- Compiles the pattern in front of the code. -/
def compile : Pattern → Code → Code
  | empty, c => c
  | literal cs, c => cs.foldr (fun char c => c.push (.oneOf (.ofChar char) c.entry)) c
  | oneOf set, c => c.push (.oneOf set c.entry)
  | look l, c => c.push (.look l c.entry)
  | capture index body, c =>
    let c := compile body (c.push (.save (2 * index + 1) c.entry))
    c.push (.save (2 * index) c.entry)
  | concat ps, c => compileAll ps c
  | alternation ps, c => compileBranches c.entry ps c
  | repetition body min max greedy, c =>
    match max with
    | some m => Code.times (compile body) min
        (Code.times (Code.optional (compile body) greedy c.entry) (m - min) c)
    | none =>
      if min = 0 then
        let exit := c.entry
        let c := Code.plus (compile body) greedy c
        c.push (Code.choice greedy c.entry exit)
      else Code.times (compile body) (min - 1) (Code.plus (compile body) greedy c)

def compileAll : List Pattern → Code → Code
  | [], c => c
  | p :: ps, c => compile p (compileAll ps c)

def compileBranches (exit : Nat) : List Pattern → Code → Code
  | [], c => c
  | [p], c => compile p { c with entry := exit }
  | p :: ps, c =>
    let c := compileBranches exit ps c
    let other := c.entry
    let c := compile p { c with entry := exit }
    c.push (.split c.entry other)
end

/-- The program of a pattern, which notes where the groups up to `lastGroup` begin and end; the
whole match is group zero. -/
def program (p : Pattern) (lastGroup : Nat) : Program :=
  let c := compile (.capture 0 p) ⟨#[.accept], 0⟩
  { code := c.instrs, start := c.entry, slots := 2 * (lastGroup + 1) }

end Oval.Pattern
