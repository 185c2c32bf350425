import Oval.Document
import Oval.Document.Json
import Oval.Error
import Oval.Registry.Index
import Oval.Registry.Reach
import Oval.Trace

/-! # The registry of a document

A registry finds the entities of a document by identifier.  Of several entities with one
identifier the first is found, kinds being searched in their order.  Its indexes hold the places of
the entities, not the entities.  Definitions are known by their position, so that two definitions
with one identifier stay apart.
-/
namespace Oval

/-- The place of an entity: the collection of a kind and the position in it. -/
structure Slot where
  kind : Kind
  position : Nat
  deriving DecidableEq, Repr

namespace Collections

variable {P T : Type} (c : Collections P T)

def at? : Slot → Option (Tagged P T)
  | ⟨.rpminfo, position⟩ => c.rpminfo[position]?.map (.package .rpm)
  | ⟨.dpkginfo, position⟩ => c.dpkginfo[position]?.map (.package .dpkg)
  | ⟨.textfilecontent54, position⟩ => c.textfilecontent54[position]?.map .text

variable [Identified P] [Identified T]

/-- The identifiers of one kind with their places. -/
def slotsOf (kind : Kind) : List (String × Slot) :=
  (c.ids kind).zipIdx.map fun (id, position) => (id, ⟨kind, position⟩)

/-- All identifiers with their places, in the order of look-up. -/
def slots : List (String × Slot) := Kind.lookupOrder.flatMap c.slotsOf

end Collections

structure Registry where
  definitions : List Definition
  tests : Tests
  objects : Objects
  states : States
  definitionIndex : Index Nat
  testIndex : Index Slot
  objectIndex : Index Slot
  stateIndex : Index Slot
  /-- The identifiers of the definitions on a cycle of extend references, in ascending order. -/
  cyclicIds : List String

namespace Registry

def numbered (definitions : List Definition) : List (Nat × Definition) :=
  definitions.zipIdx.map fun (d, i) => (i, d)

def positions (definitions : List Definition) : List (String × Nat) :=
  definitions.zipIdx.map fun (d, i) => (d.id, i)

def indexDefinitions (definitions : List Definition) : Index Nat :=
  Index.empty.insertAll (positions definitions)

/-- The graph of extend references between the positions of definitions. -/
def extendGraph (definitions : List Definition) (index : Index Nat) : Graph :=
  (definitions.map fun d => d.criteria.extendRefs.filterMap index.find?).toArray

/-- The identifiers of the definitions from which extend references lead back, in ascending order,
each once. -/
def findCyclicIds (definitions : List Definition) (index : Index Nat) : List String :=
  let onCycles := (extendGraph definitions index).onCycles
  let ids := onCycles.filterMap fun i => (definitions[i]?).map (·.id)
  ids.eraseDups.mergeSort

def indexSlots {P T : Type} [Identified P] [Identified T] (c : Collections P T) : Index Slot :=
  Index.empty.insertAll c.slots

def ofDocument (d : Document) : Registry :=
  let definitionIndex := indexDefinitions d.definitions
  { definitions := d.definitions
    tests := d.tests
    objects := d.objects
    states := d.states
    definitionIndex
    testIndex := indexSlots d.tests
    objectIndex := indexSlots d.objects
    stateIndex := indexSlots d.states
    cyclicIds := findCyclicIds d.definitions definitionIndex }

variable (r : Registry)

/-- The definition found under an identifier, with its position. -/
def definition? (id : String) : Option (Nat × Definition) :=
  (r.definitionIndex.find? id).bind fun i => (r.definitions[i]?).map fun d => (i, d)

def test? (id : String) : Option TaggedTest := (r.testIndex.find? id).bind r.tests.at?

def object? (id : String) : Option TaggedObject := (r.objectIndex.find? id).bind r.objects.at?

def state? (id : String) : Option TaggedState := (r.stateIndex.find? id).bind r.states.at?

def isCyclic (id : String) : Bool := r.cyclicIds.contains id

def definitionCount : Nat := r.definitions.length

def testCount : Nat := r.testIndex.size

def duplicateDefinitions (definitions : List Definition) : List Event :=
  (Index.empty.refused (positions definitions)).map fun (id, _, _) => .duplicateDefinition id

/-- The places of the entities that are indexed before those of a kind. -/
def indexBefore {P T : Type} [Identified P] [Identified T] (c : Collections P T) (kind : Kind) :
    Index Slot :=
  Index.empty.insertAll ((Kind.lookupOrder.takeWhile (· ≠ kind)).flatMap c.slotsOf)

/-- The entities of one kind that are not indexed because an earlier one has their identifier. -/
def duplicatesOfKind {P T : Type} [Identified P] [Identified T] (entity : Entity)
    (c : Collections P T) (kind : Kind) : List Event :=
  ((indexBefore c kind).refused (c.slotsOf kind)).map fun (id, kept, ignored) =>
    .duplicateEntity entity id kept.kind ignored.kind

/-- What building the registry reports: duplicates, kind by kind, then cycles, then a summary. -/
def buildEvents (d : Document) : List Event :=
  let r := ofDocument d
  duplicateDefinitions d.definitions ++
    Kind.lookupOrder.flatMap (fun k => duplicatesOfKind .test d.tests k ++
      duplicatesOfKind .object d.objects k ++ duplicatesOfKind .state d.states k) ++
    r.cyclicIds.map .cyclicDefinition ++
    [.registryBuilt d.definitions.length r.testIndex.size r.objectIndex.size r.stateIndex.size
      r.cyclicIds.length]

def build (d : Document) : Traced Registry := ⟨ofDocument d, (buildEvents d).map .event⟩

def parseError : AssessmentError := .documentParse "failed to parse definition document JSON"

def load (text : String) : Traced (Except AssessmentError Registry) :=
  match Document.ofText? text with
  | some d => do pure (.ok (← build d))
  | none => pure (.error parseError)

end Registry
end Oval
