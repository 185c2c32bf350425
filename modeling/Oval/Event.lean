import Oval.Kind
import Oval.Status

/-! # Events

What the library reports while it works, with the level, the message and the fields under which
each event is reported.
-/
namespace Oval

inductive Level
  | error
  | warn
  | info
  | debug
  | trace
  deriving DecidableEq, Repr

namespace Level

def all : List Level := [error, warn, info, debug, trace]

def text : Level → String
  | error => "error"
  | warn => "warn"
  | info => "info"
  | debug => "debug"
  | trace => "trace"

/-- The place of the level, the most severe first. -/
def rank : Level → Nat
  | error => 0
  | warn => 1
  | info => 2
  | debug => 3
  | trace => 4

end Level

inductive Field
  | text (value : String)
  | number (value : Nat)
  | flag (value : Bool)
  deriving DecidableEq, Repr

inductive Expected
  | bool
  | word
  deriving DecidableEq, Repr

inductive Event
  | evrCompared (actual expected : String) (epoch version release : Ordering)
  | duplicateDefinition (id : String)
  | duplicateEntity (entity : Entity) (id : String) (kept ignored : Kind)
  | cyclicDefinition (id : String)
  | registryBuilt (definitions tests objects states cyclic : Nat)
  | inventoryLoaded (packages files : Nat)
  | itemsCollected (testId : String) (kind : Kind) (items states : Nat) (exist : Bool)
  | unknownTest (definitionId testRef : String)
  | testEvaluated (definitionId testRef : String) (result : Bool)
  | testFailed (definitionId testRef error : String)
  | unknownDefinition (definitionId definitionRef : String)
  | definitionEvaluated (definitionId : String) (status : Status) (diagnostics : Nat)
  | deliveryFailed (definitionId : String)
  | outcomesCleared (definitions : Nat)
  | overrideIgnored (expected : Expected) (key value : String)
  deriving DecidableEq, Repr

namespace Event

def orderingText : Ordering → String
  | .lt => "Less"
  | .eq => "Equal"
  | .gt => "Greater"

def level : Event → Level
  | evrCompared .. => .trace
  | registryBuilt .. => .info
  | inventoryLoaded .. | itemsCollected .. | testEvaluated .. | testFailed ..
  | definitionEvaluated .. | outcomesCleared .. => .debug
  | duplicateDefinition .. | duplicateEntity .. | cyclicDefinition .. | unknownTest ..
  | unknownDefinition .. | deliveryFailed .. | overrideIgnored .. => .warn

def message : Event → String
  | evrCompared .. => "evr compared"
  | duplicateDefinition .. => "duplicate definition identifier, keeping first"
  | duplicateEntity .. => "duplicate identifier across kinds, keeping first"
  | cyclicDefinition .. => "definition is part of an extend_definition cycle"
  | registryBuilt .. => "entity registry built"
  | inventoryLoaded .. => "static inventory loaded"
  | itemsCollected .. => "test items collected"
  | unknownTest .. => "criterion references unknown test"
  | testEvaluated .. => "test evaluated"
  | testFailed .. => "test failed"
  | unknownDefinition .. => "extend_definition references unknown definition"
  | definitionEvaluated .. => "definition evaluated"
  | deliveryFailed .. => "failed to deliver evaluation result, receiver dropped"
  | outcomesCleared .. => "evaluation outcomes cleared"
  | overrideIgnored .bool .. => "failed to parse bool from env var, ignoring"
  | overrideIgnored .word .. => "failed to parse usize from env var, ignoring"

def fields : Event → List (String × Field)
  | evrCompared actual expected epoch version release =>
    [("actual", .text actual), ("expected", .text expected), ("epoch", .text (orderingText epoch)),
      ("version", .text (orderingText version)), ("release", .text (orderingText release))]
  | duplicateDefinition id => [("id", .text id)]
  | duplicateEntity entity id kept ignored =>
    [("entity", .text entity.text), ("id", .text id), ("kept", .text kept.text),
      ("ignored", .text ignored.text)]
  | cyclicDefinition id => [("id", .text id)]
  | registryBuilt definitions tests objects states cyclic =>
    [("definitions", .number definitions), ("tests", .number tests), ("objects", .number objects),
      ("states", .number states), ("cyclic", .number cyclic)]
  | inventoryLoaded packages files => [("packages", .number packages), ("files", .number files)]
  | itemsCollected testId kind items states exist =>
    [("test_id", .text testId), ("kind", .text kind.text), ("items", .number items),
      ("states", .number states), ("exists", .flag exist)]
  | unknownTest definitionId testRef =>
    [("definition_id", .text definitionId), ("test_ref", .text testRef)]
  | testEvaluated definitionId testRef result =>
    [("definition_id", .text definitionId), ("test_ref", .text testRef), ("result", .flag result)]
  | testFailed definitionId testRef error =>
    [("definition_id", .text definitionId), ("test_ref", .text testRef), ("error", .text error)]
  | unknownDefinition definitionId definitionRef =>
    [("definition_id", .text definitionId), ("definition_ref", .text definitionRef)]
  | definitionEvaluated definitionId status diagnostics =>
    [("definition_id", .text definitionId), ("status", .text status.text),
      ("diagnostics", .number diagnostics)]
  | deliveryFailed definitionId =>
    [("definition_id", .text definitionId), ("error", .text "channel closed")]
  | outcomesCleared definitions => [("definitions", .number definitions)]
  | overrideIgnored _ key value => [("env_key", .text key), ("value", .text value)]

end Event
end Oval
