import Oval.Text.Blank

/-! # Operations on versions and on texts

An operation is read from free text: blanks at both ends and the case of letters are ignored.
A text that names no operation is kept as it was written.  No letter outside ASCII has a lower
case among the letters of a name, so the lower case of ASCII decides the comparison.
-/
namespace Oval

def looseName (s : String) : String := String.ofList ((Text.trim s.toList).map Char.toLower)

inductive Relation
  | lessThan
  | lessThanOrEqual
  | equals
  | notEqual
  | greaterThan
  | greaterThanOrEqual
  deriving DecidableEq, Repr, Inhabited

namespace Relation

def all : List Relation :=
  [lessThan, lessThanOrEqual, equals, notEqual, greaterThan, greaterThanOrEqual]

def text : Relation → String
  | lessThan => "less than"
  | lessThanOrEqual => "less than or equal"
  | equals => "equals"
  | notEqual => "not equal"
  | greaterThan => "greater than"
  | greaterThanOrEqual => "greater than or equal"

def admits : Relation → Ordering → Bool
  | lessThan, o => o == .lt
  | lessThanOrEqual, o => o != .gt
  | equals, o => o == .eq
  | notEqual, o => o != .eq
  | greaterThan, o => o == .gt
  | greaterThanOrEqual, o => o != .lt

end Relation

/-- How an installed version is compared with a required one. -/
inductive EvrOperation
  | known (relation : Relation)
  | unknown (text : String)
  deriving DecidableEq, Repr

namespace EvrOperation

instance : Inhabited EvrOperation := ⟨known .equals⟩

def ofText (s : String) : EvrOperation :=
  match Relation.all.find? (·.text == looseName s) with
  | some r => known r
  | none => unknown s

def text : EvrOperation → String
  | known r => r.text
  | unknown s => s

end EvrOperation

/-- How a collected text is compared with a required one. -/
inductive TextOperation
  | equals
  | notEqual
  | patternMatch
  | unknown (text : String)
  deriving DecidableEq, Repr

namespace TextOperation

instance : Inhabited TextOperation := ⟨equals⟩

def ofText (s : String) : TextOperation :=
  let name := looseName s
  if name = "equals" then equals
  else if name = "not equal" then notEqual
  else if name = "pattern match" then patternMatch
  else unknown s

def text : TextOperation → String
  | equals => "equals"
  | notEqual => "not equal"
  | patternMatch => "pattern match"
  | unknown s => s

end TextOperation
end Oval
