import Oval.Json.Value

/-! # Records in JSON

A record is written as an object, or as an array of its fields in their order.  `fields?` turns
both notations into one list with a place for each field, empty where the field is absent.  What
an absent field means is said by `required`, `defaulted` and `optional`.
-/
namespace Oval.Json

variable {α β : Type}

def each? (f : α → Option β) : List α → Option (List β)
  | [] => some []
  | a :: r => (f a).bind fun b => (each? f r).map (b :: ·)

def bool? : Json → Option Bool
  | .bool b => some b
  | _ => none

def string? : Json → Option String
  | .string s => s
  | _ => none

/-- An unsigned number below `bound`, written with digits alone. -/
def natural? (bound : Nat) : Json → Option Nat
  | .number n => n.natural? bound
  | _ => none

def word? (v : Json) : Option Nat := v.natural? Text.wordBound

def list? (f : Json → Option α) : Json → Option (List α)
  | .array vs => each? f vs
  | _ => none

/-- The name of a case without payload: a string, or an object with the name as its only key and
null as its value. -/
def caseName? : Json → Option String
  | .string s => s
  | .object [(k, .null)] => k
  | _ => none

/-- The name of a case inside a value that is read in full first: there an empty object may stand
for null. -/
def innerCaseName? : Json → Option String
  | .object [(k, .object [])] => k
  | v => v.caseName?

def oneOf? [BEq α] (values : List α) (text : α → String) (name : String) : Option α :=
  values.find? (text · == name)

def valuesAt (members : List (Option String × Json)) (key : String) : List Json :=
  members.filterMap fun (k, v) => if k = some key then some v else none

/-- The value under the key, if there is one; two of them are an error. -/
def memberAt? (members : List (Option String × Json)) (key : String) : Option (Option Json) :=
  match valuesAt members key with
  | [] => some none
  | [v] => some (some v)
  | _ => none

/-- The fields of an object.  Unknown keys are ignored, but every key must be well formed. -/
def fieldsOfMembers? (names : List String) (members : List (Option String × Json)) :
    Option (List (Option Json)) :=
  if members.all (·.1.isSome) then each? (memberAt? members) names else none

/-- The fields of an array.  Fields at the end may be missing; there may be no more items. -/
def fieldsOfItems? (names : List String) (items : List Json) : Option (List (Option Json)) :=
  if items.length ≤ names.length then
    some (items.map some ++ List.replicate (names.length - items.length) none)
  else none

def fields? (names : List String) : Json → Option (List (Option Json))
  | .object members => fieldsOfMembers? names members
  | .array items => fieldsOfItems? names items
  | _ => none

def required (f : Json → Option α) : Option Json → Option α
  | some v => f v
  | none => none

def defaulted (default : α) (f : Json → Option α) : Option Json → Option α
  | some v => f v
  | none => some default

/-- Absent and null both mean that there is no value. -/
def optional (f : Json → Option α) : Option Json → Option (Option α)
  | some .null => some none
  | some v => (f v).map some
  | none => some none

end Oval.Json
