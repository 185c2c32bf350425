/-! # Sets of characters

A set is a list of ranges of code points.  The set operations return ranges in ascending order
with gaps between them.
-/
namespace Oval

/-- Ranges of code points, both ends included. -/
structure CharSet where
  ranges : List (Nat × Nat)
  deriving DecidableEq, Repr, Inhabited

namespace CharSet

def empty : CharSet := ⟨[]⟩

def maxCode : Nat := 0x10FFFF

def full : CharSet := ⟨[(0, maxCode)]⟩

def ofRange (a b : Nat) : CharSet := ⟨[(a, b)]⟩

def ofChar (c : Char) : CharSet := ofRange c.toNat c.toNat

def containsCode (s : CharSet) (n : Nat) : Bool := s.ranges.any fun (a, b) => a ≤ n && n ≤ b

def contains (s : CharSet) (c : Char) : Bool := s.containsCode c.toNat

/-- Joins the range from `a` to `b` with ranges that begin no earlier, as far as they overlap or
touch. -/
def joinFrom (a b : Nat) : List (Nat × Nat) → List (Nat × Nat)
  | [] => [(a, b)]
  | (c, d) :: r => if c ≤ b + 1 then joinFrom a (max b d) r else (a, b) :: joinFrom c d r

def joinSorted : List (Nat × Nat) → List (Nat × Nat)
  | [] => []
  | (a, b) :: r => joinFrom a b r

/-- The same characters in ascending ranges with gaps between them. -/
def normal (s : CharSet) : CharSet := ⟨joinSorted (s.ranges.mergeSort fun x y => x.1 ≤ y.1)⟩

def union (s t : CharSet) : CharSet := normal ⟨s.ranges ++ t.ranges⟩

def gapsFrom (start : Nat) : List (Nat × Nat) → List (Nat × Nat)
  | [] => if start ≤ maxCode then [(start, maxCode)] else []
  | (a, b) :: r => if start < a then (start, a - 1) :: gapsFrom (b + 1) r else gapsFrom (b + 1) r

def complement (s : CharSet) : CharSet := ⟨gapsFrom 0 s.normal.ranges⟩

def inter (s t : CharSet) : CharSet := complement (union (complement s) (complement t))

def diff (s t : CharSet) : CharSet := inter s (complement t)

def symmDiff (s t : CharSet) : CharSet := union (diff s t) (diff t s)

def surrogates : CharSet := ofRange 0xD800 0xDFFF

def scalars (s : CharSet) : CharSet := diff s surrogates

def isAscii (s : CharSet) : Bool := s.ranges.all fun (_, b) => b < 128

def hexValue (s : List Char) : Nat :=
  s.foldl (fun n c =>
    16 * n + (if c.toNat ≤ '9'.toNat then c.toNat - '0'.toNat else c.toNat - 'A'.toNat + 10)) 0

def words (s : List Char) : List (List Char) :=
  match s.foldr (fun c (word, rest) =>
    if c = ' ' || c = '\n' then ([], if word.isEmpty then rest else word :: rest)
    else (c :: word, rest)) ([], []) with
  | (word, rest) => if word.isEmpty then rest else word :: rest

def rangeOfWord (w : List Char) : Nat × Nat :=
  let first := w.takeWhile (· ≠ '-')
  match w.dropWhile (· ≠ '-') with
  | _ :: last => (hexValue first, hexValue last)
  | [] => (hexValue first, hexValue first)

def ofText (s : String) : CharSet := ⟨(words s.toList).map rangeOfWord⟩

end CharSet
end Oval
