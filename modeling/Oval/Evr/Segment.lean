import Oval.Text.Decimal

/-! # Comparing two segments

A segment is what stands between two dots.  Two numerals are compared as numbers; all else is
compared run by run.  A run is a tilde, a maximal run of letters or a maximal run of digits; every
other character only separates runs.
-/
namespace Oval.Evr

def isLetter (c : Char) : Bool := ('a' ≤ c && c ≤ 'z') || ('A' ≤ c && c ≤ 'Z')

def isSeparator (c : Char) : Bool := !(Text.isDigit c || isLetter c) && c ≠ '~'

def skipSeparators (s : List Char) : List Char := s.dropWhile isSeparator

/-- Runs of digits as numbers of any length: without leading zeros the longer one is greater. -/
def compareDigits (a c : List Char) : Ordering :=
  let a := a.dropWhile (· = '0')
  let c := c.dropWhile (· = '0')
  (compare a.length c.length).then (List.compareLex compare a c)

theorem length_dropWhile_le {α : Type} (p : α → Bool) (s : List α) :
    (s.dropWhile p).length ≤ s.length :=
  (List.dropWhile_suffix p).length_le

theorem length_rest_lt {x : Char} {s r : List Char} (p : Char → Bool)
    (hs : skipSeparators s = x :: r) (hx : p x = true) :
    ((x :: r).dropWhile p).length < s.length := by
  have h1 : ((x :: r).dropWhile p).length ≤ r.length := by
    rw [List.dropWhile_cons_of_pos hx]
    exact length_dropWhile_le p r
  have h2 := length_dropWhile_le isSeparator s
  rw [show s.dropWhile isSeparator = x :: r from hs, List.length_cons] at h2
  omega

theorem length_tail_lt {x : Char} {s r : List Char} (hs : skipSeparators s = x :: r) :
    r.length < s.length := by
  have h2 := length_dropWhile_le isSeparator s
  rw [show s.dropWhile isSeparator = x :: r from hs, List.length_cons] at h2
  omega

/-- Compares run by run.  A tilde is less than anything, the end of the text included; the end is
less than every other run; letters are less than digits. -/
def compareRuns (a c : List Char) : Ordering :=
  match ha : skipSeparators a, hc : skipSeparators c with
  | [], [] => .eq
  | [], y :: _ => if y = '~' then .gt else .lt
  | x :: _, [] => if x = '~' then .lt else .gt
  | x :: a', y :: c' =>
    if x = '~' then
      if y = '~' then compareRuns a' c' else .lt
    else if y = '~' then .gt
    else if hd : Text.isDigit x ∧ Text.isDigit y then
      (compareDigits ((x :: a').takeWhile Text.isDigit) ((y :: c').takeWhile Text.isDigit)).then
        (compareRuns ((x :: a').dropWhile Text.isDigit) ((y :: c').dropWhile Text.isDigit))
    else if Text.isDigit x then .gt
    else if Text.isDigit y then .lt
    else if hl : isLetter x ∧ isLetter y then
      (List.compareLex compare ((x :: a').takeWhile isLetter) ((y :: c').takeWhile isLetter)).then
        (compareRuns ((x :: a').dropWhile isLetter) ((y :: c').dropWhile isLetter))
    else .eq
termination_by a.length + c.length
decreasing_by
  · have := length_tail_lt ha
    have := length_tail_lt hc
    omega
  · have := length_rest_lt Text.isDigit ha hd.1
    have := length_rest_lt Text.isDigit hc hd.2
    omega
  · have := length_rest_lt isLetter ha hl.1
    have := length_rest_lt isLetter hc hl.2
    omega

/-- Compares two segments: as numbers if both are 64-bit numerals, else run by run. -/
def compareSegments (a c : List Char) : Ordering :=
  match Text.word? a, Text.word? c with
  | some m, some n => compare m n
  | _, _ => compareRuns a c

end Oval.Evr
