import Oval.Assessment
import Oval.Criteria.Status
import Oval.Outcome
import Oval.Settings

/-! # Evaluators

An evaluator answers requests about the definitions of one registry.  It evaluates the criteria
tree of a definition, and of the definitions that the tree extends, and stores an outcome for each.
With caching a stored outcome answers for the tree.
-/
namespace Oval

structure Evaluator where
  registry : Registry
  inventory : Inventory
  settings : Settings := {}

/-- The outcomes of a registry before the first evaluation. -/
def Registry.unevaluated (r : Registry) : Outcomes := .fresh r.definitionCount

/-- What the walk of a tree changes: the outcomes of all definitions and the context of its own. -/
structure Walk where
  outcomes : Outcomes
  context : Context := {}
  deriving DecidableEq, Repr

/-- A step of a walk: it may change outcomes and context and reports what it does. -/
abbrev Step := StateT Walk Traced

namespace Step

def report (e : Event) : Step Unit := StateT.lift (Traced.report e)

def count (m : Metric) : Step Unit := StateT.lift (Traced.count m)

def record (d : Diagnostic) : Step Unit := do
  modify fun w => { w with context := w.context.record d }
  count .diagnosticRecorded

def merge (ds : List Diagnostic) : Step Unit := do
  let fresh := (← get).context.fresh ds
  modify fun w => { w with context := w.context.merge ds }
  fresh.forM fun _ => count .diagnosticRecorded

/-- Runs a step in a context of its own and hands out the diagnostics that it leaves there. -/
def inOwnContext {α : Type} (x : Step α) : Step (α × List Diagnostic) := fun w => do
  let (a, inner) ← x { outcomes := w.outcomes }
  pure ((a, inner.context.recorded), { w with outcomes := inner.outcomes })

end Step

namespace Evaluator

variable (e : Evaluator)

def childlessStatus (definitionId : String) : Step Status := do
  Step.record (.warning definitionId "criteria node has no children")
  pure .unknown

/-- The status of a criterion: the verdict of its test, or an error that is recorded. -/
def criterionStatus (definitionId testRef : String) : Step Status := do
  match e.registry.test? testRef with
  | none =>
    Step.report (.unknownTest definitionId testRef)
    Step.record (.error definitionId ("unresolved test reference: " ++ testRef))
    pure .error
  | some t =>
    match ← StateT.lift (e.registry.assess e.inventory t) with
    | .ok verdict =>
      Step.report (.testEvaluated definitionId testRef verdict)
      pure (.ofBool verdict)
    | .error cause =>
      Step.report (.testFailed definitionId testRef cause.message)
      Step.record
        (.error definitionId ("test " ++ testRef ++ " could not be evaluated: " ++ cause.message))
      pure .error

/-- The status of an extend leaf: that of the definition found, or an error that is recorded. -/
def extendStatus (nested : Nat × Definition → Step Status) (definitionId definitionRef : String) :
    Step Status := do
  match e.registry.definition? definitionRef with
  | some found => nested found
  | none =>
    Step.report (.unknownDefinition definitionId definitionRef)
    Step.record (.error definitionId ("unresolved definition reference: " ++ definitionRef))
    pure .error

def leaves (nested : Nat × Definition → Step Status) (definitionId : String) : Leaves Step where
  childless := childlessStatus definitionId
  criterion := e.criterionStatus definitionId
  extend := e.extendStatus nested definitionId

/-- The status of a definition from its tree.  A definition on a cycle is an error; its tree is not
looked at. -/
def treeStatus (nested : Nat × Definition → Step Status) (d : Definition) : Step Status :=
  if e.registry.isCyclic d.id then do
    Step.record (.error d.id (AssessmentError.extendCycle d.id).message)
    pure .error
  else d.criteria.node.status (e.leaves nested d.id)

def cached? (outcomes : Outcomes) (position : Nat) : Option Outcome :=
  if e.settings.cacheResults then outcomes.get? position else none

/-- The status of a definition inside the evaluation of the definitions at the positions `held`.
Its diagnostics are merged into the context at hand, and its outcome is stored unless it came from
the cache.  A definition that is held already cannot answer. -/
def nestedStatus : (depth : Nat) → (held : List Nat) → Nat × Definition → Step Status
  | 0, _, (position, _) => do
    StateT.lift (Traced.emit (.blocked position))
    pure .error
  | depth + 1, held, (position, d) => do
    if held.contains position then
      StateT.lift (Traced.emit (.blocked position))
      pure .error
    else
      match e.cached? (← get).outcomes position with
      | some done =>
        Step.count .definitionCached
        Step.merge done.diagnostics
        pure done.status
      | none =>
        let (status, diagnostics) ←
          Step.inOwnContext (e.treeStatus (nestedStatus depth (position :: held)) d)
        Step.merge diagnostics
        modify fun w => { w with outcomes := w.outcomes.store position ⟨status, diagnostics⟩ }
        pure status

/-- The status of a definition in a context of its own, with all diagnostics recorded there.  The
definitions on the way are distinct, so their number bounds the depth. -/
def definitionStatus (position : Nat) (d : Definition) : Step (Status × List Diagnostic) :=
  Step.inOwnContext (e.nestedStatus (e.registry.definitionCount + 1) [] (position, d))

inductive Sink
  | accepting
  | closed
  deriving DecidableEq, Repr

/-- Delivers a finding; a closed sink is reported and changes nothing else. -/
def deliver (sink : Option Sink) (f : Finding) : Traced Unit :=
  match sink with
  | some .accepting => Traced.emit (.deliver f)
  | some .closed => Traced.report (.deliveryFailed f.definitionId)
  | none => pure ()

abbrev Session := StateT Outcomes Traced

/-- Evaluates one definition and delivers the finding. -/
def evaluateAt (sink : Option Sink) (position : Nat) (d : Definition) : Session Finding :=
  fun outcomes => do
    let ((status, all), walk) ← e.definitionStatus position d { outcomes }
    let diagnostics := Context.finish e.settings.maxDiagnostics { recorded := all }
    Traced.count (.definitionEvaluated status)
    Traced.count .evaluationTimed
    let finding : Finding := ⟨d.id, d.title, status, diagnostics⟩
    Traced.report (.definitionEvaluated d.id status diagnostics.length)
    deliver sink finding
    pure (finding, walk.outcomes)

def evaluate (sink : Option Sink) (id : String) : Session (Except AssessmentError Finding) := do
  match e.registry.definition? id with
  | some (position, d) => pure (.ok (← e.evaluateAt sink position d))
  | none => pure (.error (.danglingReference .definition id))

def evaluateAll (sink : Option Sink) : Session (List Finding) :=
  (Registry.numbered e.registry.definitions).mapM fun (position, d) => e.evaluateAt sink position d

/-- Forgets the outcome of every definition of the document, in its order. -/
def reset : Session Unit := fun outcomes => do
  Traced.report (.outcomesCleared e.registry.definitionCount)
  pure ((), outcomes.clearAll ((Registry.numbered e.registry.definitions).map Prod.fst))

def status? (outcomes : Outcomes) (id : String) : Option Status :=
  (e.registry.definition? id).map fun (position, _) => outcomes.status position

end Evaluator
end Oval
