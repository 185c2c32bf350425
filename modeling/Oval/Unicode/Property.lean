import Oval.Unicode.Age
import Oval.Unicode.Binary
import Oval.Unicode.Category
import Oval.Unicode.CharSet
import Oval.Unicode.Script
import Oval.Unicode.ScriptExtension
import Oval.Unicode.Segmentation
import Oval.Text.Blank

/-! # Properties by name

Finds the characters of a general category, a script, a binary property, an age or a kind of break.
Names are compared loosely: case, blanks, hyphens and underscores do not count, nor does `is` in
front.
-/
namespace Oval.Unicode

/-- The loose form of a name.  `isc` keeps its prefix, because `c` alone names a category. -/
def looseName (name : List Char) : List Char :=
  let bare := match name with
    | i :: s :: r => if (i = 'i' || i = 'I') && (s = 's' || s = 'S') then r else name
    | _ => name
  let kept := bare.filter fun c => c.toNat < 128 && c ≠ ' ' && c ≠ '_' && c ≠ '-'
  let loose := kept.map Char.toLower
  if bare.length < name.length && loose = ['c'] then ['i', 's', 'c'] else loose

def row? (table : List (List String × String)) (name : String) : Option CharSet :=
  (table.find? fun (names, _) => names.contains name).map fun (_, text) => CharSet.ofText text

def unionOf (sets : List CharSet) : CharSet := CharSet.normal ⟨sets.flatMap CharSet.ranges⟩

def unassigned : CharSet :=
  CharSet.complement (unionOf (.surrogates :: categories.map fun (_, text) => CharSet.ofText text))

def category? (name : String) : Option CharSet :=
  if name = "any" then some .full
  else if name = "ascii" then some (.ofRange 0 0x7F)
  else if name = "assigned" then some unassigned.complement
  else if name = "cn" || name = "unassigned" then some unassigned
  else if name = "c" || name = "other" then
    some (unionOf (unassigned :: ["cc", "cf", "co"].filterMap (row? categories)))
  else match categoryUnions.find? fun (names, _) => names.contains name with
    | some (_, parts) => some (unionOf (parts.filterMap (row? categories)))
    | none => row? categories name

def script? (name : String) : Option CharSet := row? scripts name

/-- The characters used with a script; those of the script itself where the table has no row. -/
def scriptExtension? (name : String) : Option CharSet :=
  (row? scriptExtensions name).or (row? scripts name)

def binary? (name : String) : Option CharSet := row? binaryProperties name

/-- What a name alone stands for: a binary property, else a category, else a script.  `cf`, `sc`
and `lc` name categories before anything else. -/
def named? (name : List Char) : Option CharSet :=
  let loose := String.ofList (looseName name)
  let binary := if loose = "cf" || loose = "sc" || loose = "lc" then none else binary? loose
  (binary.or (category? loose)).or (script? loose)

/-- The characters that a version had: those that it added and those of the versions before. -/
def age? (name : String) : Option CharSet :=
  match ages.span fun (names, _) => !names.contains name with
  | (before, (_, text) :: _) =>
    some (unionOf (CharSet.ofText text :: before.map fun (_, text) => CharSet.ofText text))
  | (_, []) => none

/-- The properties that take a value: their names and what they make of a value. -/
def valuedProperties : List (List String × (String → Option CharSet)) := [
  (["gc", "generalcategory", "category"], category?),
  (["sc", "script"], script?),
  (["scx", "scriptextensions"], scriptExtension?),
  (["age"], age?),
  (["gcb", "graphemeclusterbreak"], row? graphemeBreaks),
  (["wb", "wordbreak"], row? wordBreaks),
  (["sb", "sentencebreak"], row? sentenceBreaks)]

def valued? (property value : List Char) : Option CharSet := do
  let name := String.ofList (looseName property)
  let (_, values) ← valuedProperties.find? fun (names, _) => names.contains name
  values (String.ofList (looseName value))

def alphabetic : CharSet := (binary? "alphabetic").getD .empty

def decimalDigits : CharSet := (category? "nd").getD .empty

/-- The characters of words: letters, marks, digits, connectors and joiners. -/
def wordCharacters : CharSet :=
  unionOf ([some alphabetic, category? "m", category? "nd", category? "pc",
    binary? "joincontrol"].filterMap id)

def blanks : CharSet := (binary? "whitespace").getD .empty

end Oval.Unicode
