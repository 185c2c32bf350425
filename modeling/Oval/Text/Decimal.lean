/-! # Decimal digits and 64-bit numerals

A numeral is a run of ASCII digits.  Its value is unbounded; a word is a numeral whose value fits
in 64 bits and which may carry a plus sign.
-/
namespace Oval.Text

def isDigit (c : Char) : Bool := '0' ≤ c && c ≤ '9'

/-- The value of a run of digits, most significant first. -/
def decimalValue (ds : List Char) : Nat := ds.foldl (fun n c => 10 * n + (c.toNat - '0'.toNat)) 0

/-- One more than the largest unsigned 64-bit value. -/
def wordBound : Nat := 18446744073709551616

/-- The value of a nonempty run of digits below `bound`, after an optional plus sign.  Leading
zeros are allowed. -/
def numeral? (bound : Nat) (s : List Char) : Option Nat :=
  let ds := match s with
    | '+' :: r => r
    | r => r
  if !ds.isEmpty && ds.all isDigit && decimalValue ds < bound then some (decimalValue ds) else none

def word? (s : List Char) : Option Nat := numeral? wordBound s

end Oval.Text
