import Oval.Evr.Segment

/-! # The tokens of a segment

The run order said once more, without a scan of two texts at a time: a segment is read into
tokens, and two token lists are compared place by place.
-/
namespace Oval.Evr

inductive Token
  | tilde
  | letters (run : List Char)
  | digits (value : Nat)
  deriving DecidableEq, Repr

/-- The tokens of a text, in order: each tilde, each maximal run of letters, each maximal run of
digits with its value. -/
def tokens : List Char → List Token
  | [] => []
  | c :: r =>
    if c = '~' then .tilde :: tokens r
    else if isLetter c then
      have := length_dropWhile_le isLetter r
      .letters (c :: r.takeWhile isLetter) :: tokens (r.dropWhile isLetter)
    else if Text.isDigit c then
      have := length_dropWhile_le Text.isDigit r
      .digits (Text.decimalValue (c :: r.takeWhile Text.isDigit)) ::
        tokens (r.dropWhile Text.isDigit)
    else tokens r
termination_by s => s.length

/-- At the first place that differs a tilde comes first, then the end of the list, then letters,
then digits. -/
def compareTokens : List Token → List Token → Ordering
  | [], [] => .eq
  | [], .tilde :: _ => .gt
  | [], _ :: _ => .lt
  | .tilde :: _, [] => .lt
  | _ :: _, [] => .gt
  | .tilde :: a, .tilde :: c => compareTokens a c
  | .tilde :: _, _ :: _ => .lt
  | _ :: _, .tilde :: _ => .gt
  | .letters x :: a, .letters y :: c => (List.compareLex compare x y).then (compareTokens a c)
  | .letters _ :: _, .digits _ :: _ => .lt
  | .digits _ :: _, .letters _ :: _ => .gt
  | .digits m :: a, .digits n :: c => (compare m n).then (compareTokens a c)

end Oval.Evr
