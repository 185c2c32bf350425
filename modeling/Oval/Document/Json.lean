import Oval.Document
import Oval.Json.Reader
import Oval.Json.Record

/-! # Documents in JSON

`ofJson?` reads each type in record or array notation, `toJson` writes it as an object.  A child
of a criteria group is an object with a `type`, at any place among its keys, or an array that
begins with the type; it is read in full before its fields are looked at, so the limit on nesting
and the rules on numbers and strings hold for its unknown keys too.
-/
namespace Oval

open Json

instance : Coe String Json := ⟨Json.ofString⟩

namespace Operator

def ofName? : String → Option Operator := oneOf? all text

def ofJson? (v : Json) : Option Operator := v.caseName?.bind ofName?

end Operator

def Kind.ofJson? (v : Json) : Option Kind := v.caseName?.bind (oneOf? Kind.lookupOrder Kind.text)

def PackageFormat.ofJson? (v : Json) : Option PackageFormat :=
  v.caseName?.bind (oneOf? PackageFormat.all PackageFormat.text)

def Check.ofJson? (v : Json) : Option Check := v.caseName?.bind (oneOf? Check.modes Check.text)

def Existence.ofJson? (v : Json) : Option Existence :=
  v.caseName?.bind (oneOf? Existence.modes Existence.text)

def EvrOperation.ofJson? (v : Json) : Option EvrOperation := v.string?.map ofText

def TextOperation.ofJson? (v : Json) : Option TextOperation := v.string?.map ofText

namespace Node

/-- The members of the record that a child holds besides its type, by case. -/
inductive Shape
  | group
  | criterion
  | extend
  deriving DecidableEq, Repr

namespace Shape

def all : List Shape := [group, criterion, extend]

def text : Shape → String
  | group => "criteria"
  | criterion => "criterion"
  | extend => "extend_definition"

def fieldNames : Shape → List String
  | group => ["operator", "negate", "comment", "children"]
  | criterion => ["test_ref", "negate", "comment"]
  | extend => ["definition_ref", "negate", "comment"]

/-- The case that a type names.  In a child of a child the type may also be its place in the list
of cases. -/
def ofTag? (inner : Bool) : Json → Option Shape
  | .string s => s.bind (oneOf? all text)
  | .number n => if inner then (n.natural? Text.wordBound).bind (all[·]?) else none
  | _ => none

end Shape

/-- Divides a child into its case and the fields of the case. -/
def split? (inner : Bool) : Json → Option (Shape × List (Option Json))
  | .object members => do
    let tag ← (← memberAt? members "type")
    let shape ← Shape.ofTag? inner tag
    let rest := members.filter (·.1 ≠ some "type")
    some (shape, ← fieldsOfMembers? shape.fieldNames rest)
  | .array (tag :: items) => do
    let shape ← Shape.ofTag? inner tag
    some (shape, ← fieldsOfItems? shape.fieldNames items)
  | _ => none

/-- Reads a child that may nest `room` containers.  Each nested group stands two containers
further in. -/
def ofJson? : (room : Nat) → (inner : Bool) → Json → Option Node
  | 0, _, _ => none
  | room + 1, inner, v => do
    match ← split? inner v with
    | (.group, [operator, negate, comment, children]) =>
      some (.group
        (← defaulted .and (fun v => v.innerCaseName?.bind Operator.ofName?) operator)
        (← defaulted false bool? negate)
        (← optional string? comment)
        (← defaulted [] (list? (ofJson? (room - 1) true)) children))
    | (.criterion, [testRef, negate, comment]) =>
      some (.criterion (← required string? testRef) (← defaulted false bool? negate)
        (← optional string? comment))
    | (.extend, [definitionRef, negate, comment]) =>
      some (.extend (← required string? definitionRef) (← defaulted false bool? negate)
        (← optional string? comment))
    | _ => none

mutual
def toJson : Node → Json
  | group operator negate comment children => present [("type", some Shape.group.text),
      ("operator", some operator.text), ("negate", some (.bool negate)),
      ("comment", comment.map Json.ofString), ("children", some (.array (toJsonAll children)))]
  | criterion testRef negate comment => present [("type", some Shape.criterion.text),
      ("test_ref", some testRef), ("negate", some (.bool negate)),
      ("comment", comment.map Json.ofString)]
  | extend definitionRef negate comment => present [("type", some Shape.extend.text),
      ("definition_ref", some definitionRef), ("negate", some (.bool negate)),
      ("comment", comment.map Json.ofString)]

def toJsonAll : List Node → List Json
  | [] => []
  | n :: r => toJson n :: toJsonAll r
end

end Node

namespace Document

def nesting : Nat := 127

/-- A child of a definition's criteria stands inside five containers: the document, its list of
definitions, the definition, its criteria and their list of children. -/
def childNesting : Nat := nesting - 5

end Document

namespace Criteria

def child? (v : Json) : Option Node :=
  if v.isReadable Document.childNesting then Node.ofJson? Document.childNesting false v else none

def ofJson? (v : Json) : Option Criteria := do
  match ← v.fields? Node.Shape.group.fieldNames with
  | [operator, negate, comment, children] =>
    some {
      operator := ← defaulted .and Operator.ofJson? operator
      negate := ← defaulted false bool? negate
      comment := ← optional string? comment
      children := ← defaulted [] (list? child?) children }
  | _ => none

def toJson (c : Criteria) : Json :=
  present [("operator", some c.operator.text), ("negate", some (.bool c.negate)),
    ("comment", c.comment.map Json.ofString),
    ("children", some (.array (Node.toJsonAll c.children)))]

end Criteria

namespace Metadata

def ofJson? (v : Json) : Option Metadata := do
  match ← v.fields? ["title", "description"] with
  | [title, description] =>
    some { title := ← defaulted "" string? title, description := ← optional string? description }
  | _ => none

def toJson (m : Metadata) : Json :=
  present [("title", some m.title), ("description", m.description.map Json.ofString)]

end Metadata

namespace Definition

def ofJson? (v : Json) : Option Definition := do
  match ← v.fields? ["id", "metadata", "criteria"] with
  | [id, metadata, criteria] =>
    some {
      id := ← required string? id
      metadata := ← defaulted {} Metadata.ofJson? metadata
      criteria := ← required Criteria.ofJson? criteria }
  | _ => none

def toJson (d : Definition) : Json :=
  record [("id", d.id), ("metadata", d.metadata.toJson), ("criteria", d.criteria.toJson)]

end Definition

namespace Test

def ofJson? (v : Json) : Option Test := do
  match ← v.fields? ["id", "comment", "check", "check_existence", "object_ref", "state_refs"] with
  | [id, comment, check, existence, objectRef, stateRefs] =>
    some {
      id := ← required string? id
      comment := ← optional string? comment
      check := ← defaulted .all Check.ofJson? check
      existence := ← defaulted .atLeastOneExists Existence.ofJson? existence
      objectRef := ← required string? objectRef
      stateRefs := ← defaulted [] (list? string?) stateRefs }
  | _ => none

def toJson (t : Test) : Json :=
  present [("id", some t.id), ("comment", t.comment.map Json.ofString),
    ("check", some t.check.text), ("check_existence", some t.existence.text),
    ("object_ref", some t.objectRef),
    ("state_refs", some (Json.ofList Json.ofString t.stateRefs))]

end Test

namespace PackageObject

def ofJson? (v : Json) : Option PackageObject := do
  match ← v.fields? ["id", "name"] with
  | [id, name] => some { id := ← required string? id, name := ← required string? name }
  | _ => none

def toJson (o : PackageObject) : Json := record [("id", o.id), ("name", o.name)]

end PackageObject

namespace TextObject

def ofJson? (v : Json) : Option TextObject := do
  match ← v.fields? ["id", "filepath", "pattern", "instance"] with
  | [id, filepath, pattern, instanceIndex] =>
    some {
      id := ← required string? id
      filepath := ← required string? filepath
      pattern := ← required string? pattern
      instanceIndex := ← optional word? instanceIndex }
  | _ => none

def toJson (o : TextObject) : Json :=
  present [("id", some o.id), ("filepath", some o.filepath), ("pattern", some o.pattern),
    ("instance", o.instanceIndex.map Json.ofNat)]

end TextObject

namespace EvrRequirement

def ofJson? (v : Json) : Option EvrRequirement := do
  match ← v.fields? ["operation", "value"] with
  | [operation, value] =>
    some {
      operation := ← defaulted (.known .equals) EvrOperation.ofJson? operation
      value := ← required string? value }
  | _ => none

def toJson (r : EvrRequirement) : Json :=
  record [("operation", r.operation.text), ("value", r.value)]

end EvrRequirement

namespace PackageState

def ofJson? (v : Json) : Option PackageState := do
  match ← v.fields? ["id", "evr", "arch"] with
  | [id, evr, arch] =>
    some {
      id := ← required string? id
      evr := ← optional EvrRequirement.ofJson? evr
      arch := ← optional string? arch }
  | _ => none

def toJson (s : PackageState) : Json :=
  present [("id", some s.id), ("evr", s.evr.map EvrRequirement.toJson),
    ("arch", s.arch.map Json.ofString)]

end PackageState

namespace TextRequirement

def ofJson? (v : Json) : Option TextRequirement := do
  match ← v.fields? ["operation", "value"] with
  | [operation, value] =>
    some {
      operation := ← defaulted .equals TextOperation.ofJson? operation
      value := ← required string? value }
  | _ => none

def toJson (r : TextRequirement) : Json :=
  record [("operation", r.operation.text), ("value", r.value)]

end TextRequirement

namespace TextState

def ofJson? (v : Json) : Option TextState := do
  match ← v.fields? ["id", "subexpression"] with
  | [id, subexpression] =>
    some {
      id := ← required string? id
      subexpression := ← optional TextRequirement.ofJson? subexpression }
  | _ => none

def toJson (s : TextState) : Json :=
  present [("id", some s.id), ("subexpression", s.subexpression.map TextRequirement.toJson)]

end TextState

namespace Collections

variable {P T : Type}

def keys (role : String) : List String := Kind.lookupOrder.map fun k => k.text ++ "_" ++ role

def ofJson? (role : String) (package? : Json → Option P) (text? : Json → Option T) (v : Json) :
    Option (Collections P T) := do
  match ← v.fields? (keys role) with
  | [rpminfo, dpkginfo, textfilecontent54] =>
    some {
      rpminfo := ← defaulted [] (list? package?) rpminfo
      dpkginfo := ← defaulted [] (list? package?) dpkginfo
      textfilecontent54 := ← defaulted [] (list? text?) textfilecontent54 }
  | _ => none

def toJson (role : String) (package : P → Json) (text : T → Json) (c : Collections P T) : Json :=
  record ((keys role).zip
    [.array (c.rpminfo.map package), .array (c.dpkginfo.map package),
      .array (c.textfilecontent54.map text)])

end Collections

def Tests.ofJson? : Json → Option Tests := Collections.ofJson? "tests" Test.ofJson? Test.ofJson?

def Tests.toJson : Tests → Json := Collections.toJson "tests" Test.toJson Test.toJson

def Objects.ofJson? : Json → Option Objects :=
  Collections.ofJson? "objects" PackageObject.ofJson? TextObject.ofJson?

def Objects.toJson : Objects → Json :=
  Collections.toJson "objects" PackageObject.toJson TextObject.toJson

def States.ofJson? : Json → Option States :=
  Collections.ofJson? "states" PackageState.ofJson? TextState.ofJson?

def States.toJson : States → Json :=
  Collections.toJson "states" PackageState.toJson TextState.toJson

namespace Document

def ofJson? (v : Json) : Option Document := do
  match ← v.fields? ["definitions", "tests", "objects", "states"] with
  | [definitions, tests, objects, states] =>
    some {
      definitions := ← defaulted [] (list? Definition.ofJson?) definitions
      tests := ← defaulted {} Tests.ofJson? tests
      objects := ← defaulted {} Objects.ofJson? objects
      states := ← defaulted {} States.ofJson? states }
  | _ => none

def toJson (d : Document) : Json :=
  record [("definitions", .array (d.definitions.map Definition.toJson)),
    ("tests", Tests.toJson d.tests), ("objects", Objects.toJson d.objects),
    ("states", States.toJson d.states)]

def ofText? (text : String) : Option Document := (Json.read? text).bind ofJson?

end Document
end Oval
