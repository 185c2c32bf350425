/-! # UTF-8

The bytes of a code point, and the code points of a range as sequences of byte ranges: each sequence
stands for all texts that take one byte from each of its ranges.
-/
namespace Oval.Text.Utf8

/-- The bytes of a code point. -/
def encode (n : Nat) : List Nat :=
  if n < 0x80 then [n]
  else if n < 0x800 then [0xC0 + n / 64, 0x80 + n % 64]
  else if n < 0x10000 then [0xE0 + n / 4096, 0x80 + n / 64 % 64, 0x80 + n % 64]
  else [0xF0 + n / 262144, 0x80 + n / 4096 % 64, 0x80 + n / 64 % 64, 0x80 + n % 64]

abbrev ByteRange := Nat × Nat

/-- The last code point of the first part, if the range from `a` to `b` is no single sequence.  The
codes of a sequence have the same length, and below the first byte in which they differ they take
all values. -/
def cut? (a b : Nat) : Option Nat :=
  if b < 0x80 then none
  else ([0x7F, 0x7FF, 0xFFFF].find? fun m => a ≤ m && m < b).or <|
    [64, 4096, 262144].findSome? fun width =>
      if a / width = b / width then none
      else if a % width ≠ 0 then some (a - a % width + width - 1)
      else if b % width ≠ width - 1 then some (b - b % width - 1)
      else none

/-- The sequences of a range of code points without surrogates, in ascending order. -/
def sequences (a b : Nat) : List (List ByteRange) :=
  match cut? a b with
  | none => [(encode a).zip (encode b)]
  | some m =>
    if _h : a ≤ m ∧ m < b then sequences a m ++ sequences (m + 1) b
    else [(encode a).zip (encode b)]
termination_by b - a

end Oval.Text.Utf8
