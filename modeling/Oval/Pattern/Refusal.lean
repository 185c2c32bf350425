import Oval.Pattern.Footprint
import Oval.Pattern.Meaning
import Oval.Pattern.Parser

/-! # Texts as patterns

Reads a pattern from its text, and says why a text is refused.
-/
namespace Oval.Pattern

/-- Why a text is not used as a pattern. -/
inductive Refusal
  | malformed
  | tooLarge
  deriving DecidableEq, Repr

def Refusal.message : Refusal → String
  | malformed => "regex parse error"
  | tooLarge => "Compiled regex exceeds size limit of " ++ toString sizeLimit ++ " bytes."

def ofText (text : String) : Except Refusal Pattern :=
  match (Surface.ofText? text).bind (ofSurface? {}) with
  | some (p, _) => if p.fits then .ok p else .error .tooLarge
  | none => .error .malformed

end Oval.Pattern
