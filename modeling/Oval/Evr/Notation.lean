import Oval.Text.Decimal
import Oval.Text.Split

/-! # The notation of versions

A version text is `epoch:version+release`.  Before two texts are compared each gets an epoch, so
that the split below always finds one; the split itself takes the text as it is.
-/
namespace Oval

structure Evr where
  epoch : List Char
  version : List Char
  release : List Char
  deriving DecidableEq, Repr

inductive EvrError
  | missingEpoch (input : String)
  | invalidEpoch (epoch : String)
  | emptyVersion
  | unknownOperation (operation : String)
  deriving DecidableEq, Repr

def EvrError.message : EvrError → String
  | missingEpoch input => "evr '" ++ input ++ "' has no epoch separator"
  | invalidEpoch epoch => "evr epoch '" ++ epoch ++ "' is not a valid unsigned integer"
  | emptyVersion => "evr version is empty"
  | unknownOperation operation => "unknown evr operation '" ++ operation ++ "'"

namespace Evr

/-- Whether the text begins with a nonempty run of digits and a colon. -/
def hasEpoch (s : List Char) : Bool :=
  !(s.takeWhile Text.isDigit).isEmpty && (s.dropWhile Text.isDigit).head? = some ':'

/-- The text with an epoch: zero, unless it already has one. -/
def normalize (s : List Char) : List Char := if hasEpoch s then s else '0' :: ':' :: s

/-- Splits at the first colon, and what follows it at the first plus sign.  Without a plus sign
the release is empty. -/
def split? (s : List Char) : Option Evr :=
  (Text.cut? ':' s).map fun (epoch, rest) =>
    match Text.cut? '+' rest with
    | some (version, release) => ⟨epoch, version, release⟩
    | none => ⟨epoch, rest, []⟩

theorem hasEpoch_zero (s : List Char) : hasEpoch ('0' :: ':' :: s) = true := by
  simp [hasEpoch, Text.isDigit]

theorem hasEpoch_normalize (s : List Char) : hasEpoch (normalize s) = true := by
  unfold normalize
  split
  · assumption
  · exact hasEpoch_zero s

@[simp] theorem normalize_normalize (s : List Char) : normalize (normalize s) = normalize s := by
  rw [normalize, if_pos (hasEpoch_normalize s)]

theorem colon_mem_normalize (s : List Char) : ':' ∈ normalize s := by
  unfold normalize
  split
  · rename_i h
    simp only [hasEpoch, Bool.and_eq_true, decide_eq_true_eq] at h
    have hd : ':' ∈ s.dropWhile Text.isDigit := List.mem_of_head? h.2
    exact (List.dropWhile_suffix _).subset hd
  · simp

theorem split?_normalize_isSome (s : List Char) : (split? (normalize s)).isSome := by
  cases h : Text.cut? ':' (normalize s) with
  | none => exact absurd (colon_mem_normalize s) (Text.cut?_eq_none.1 h)
  | some p => simp [split?, h]

end Evr
end Oval
