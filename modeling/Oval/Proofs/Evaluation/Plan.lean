import Oval.Evaluator
import Oval.Proofs.Registry.Extension

/-! # The plan of a definition

Once the references of its leaves are looked up, a definition comes to a list of errands: a leaf is
settled on the spot, with a status and perhaps a diagnostic, or another definition is visited.  The
list depends on the document and on the inventory, not on what has been evaluated before.
-/
namespace Oval

namespace Diagnostic

def childless (definitionId : String) : Diagnostic :=
  .warning definitionId "criteria node has no children"

def unknownTest (definitionId testRef : String) : Diagnostic :=
  .error definitionId ("unresolved test reference: " ++ testRef)

def failedTest (definitionId testRef : String) (cause : AssessmentError) : Diagnostic :=
  .error definitionId ("test " ++ testRef ++ " could not be evaluated: " ++ cause.message)

def unknownDefinition (definitionId definitionRef : String) : Diagnostic :=
  .error definitionId ("unresolved definition reference: " ++ definitionRef)

def extendCycle (definitionId : String) : Diagnostic :=
  .error definitionId (AssessmentError.extendCycle definitionId).message

end Diagnostic

def Context.note (c : Context) : Option Diagnostic → Context
  | none => c
  | some d => c.record d

/-- What a leaf comes to: an answer of its own, or a visit to the definition at a position. -/
inductive Errand
  | settled (status : Status) (diagnostic : Option Diagnostic) (effects : List Effect)
  | visit (position : Nat) (definition : Definition)

def Errand.IsAt (r : Registry) : Errand → Prop
  | settled .. => True
  | visit position d => r.definitions[position]? = some d

def Errand.diagnostic? : Errand → Option Diagnostic
  | settled _ diagnostic _ => diagnostic
  | visit .. => none

namespace Registry

variable (r : Registry) (inv : Inventory)

def criterionErrand (definitionId testRef : String) : Errand :=
  match r.test? testRef with
  | none => .settled .error (some (.unknownTest definitionId testRef))
      [.event (.unknownTest definitionId testRef), .count .diagnosticRecorded]
  | some t =>
    match (r.assess inv t).value with
    | .ok verdict => .settled (.ofBool verdict) none
        ((r.assess inv t).effects ++ [.event (.testEvaluated definitionId testRef verdict)])
    | .error cause => .settled .error (some (.failedTest definitionId testRef cause))
        ((r.assess inv t).effects ++
          [.event (.testFailed definitionId testRef cause.message), .count .diagnosticRecorded])

def extendErrand (definitionId definitionRef : String) : Errand :=
  match r.definition? definitionRef with
  | some (position, d) => .visit position d
  | none => .settled .error (some (.unknownDefinition definitionId definitionRef))
      [.event (.unknownDefinition definitionId definitionRef), .count .diagnosticRecorded]

def errand (definitionId : String) : Leaf → Errand
  | .childless => .settled .unknown (some (.childless definitionId)) [.count .diagnosticRecorded]
  | .criterion testRef => r.criterionErrand inv definitionId testRef
  | .extend definitionRef => r.extendErrand definitionId definitionRef

/-- The errands of a definition, in document order.  A definition on a cycle has a single one. -/
def plan (d : Definition) : List Errand :=
  if r.isCyclic d.id then
    [.settled .error (some (.extendCycle d.id)) [.count .diagnosticRecorded]]
  else d.criteria.node.leafList.map (r.errand inv d.id)

def Visited (errands : List Errand) (q : Nat) : Prop := ∃ d, Errand.visit q d ∈ errands

/-- The status of a definition from the answers to its errands. -/
def conclude (d : Definition) (answers : List Status) : Status :=
  if r.isCyclic d.id then .error else d.criteria.node.verdict answers

theorem visited_cons_iff {x : Errand} {errands : List Errand} {q : Nat} :
    Visited (x :: errands) q ↔ (∃ d, x = .visit q d) ∨ Visited errands q := by
  simp only [Visited, List.mem_cons, exists_or, eq_comm]

variable {r inv}

theorem visit_of_errand {definitionId : String} {l : Leaf} {q : Nat} {d : Definition}
    (h : r.errand inv definitionId l = .visit q d) :
    ∃ ref, l = .extend ref ∧ r.definition? ref = some (q, d) := by
  cases l with
  | childless => cases h
  | criterion testRef =>
    simp only [errand, criterionErrand] at h
    split at h
    · cases h
    · split at h <;> cases h
  | extend ref =>
    simp only [errand, extendErrand] at h
    split at h
    · rename_i q' d' hfind
      cases h
      exact ⟨ref, rfl, hfind⟩
    · cases h

/-- A visit is planned exactly for the definitions that an extend leaf finds, and never by a
definition on a cycle. -/
theorem visit_mem_plan_iff {d d' : Definition} {q : Nat} :
    .visit q d' ∈ r.plan inv d ↔ r.isCyclic d.id = false ∧
      ∃ ref, d.criteria.node.Names ref ∧ r.definition? ref = some (q, d') := by
  unfold plan
  split
  · rename_i hcyclic
    simp [hcyclic]
  · rename_i hcyclic
    simp only [List.mem_map]
    constructor
    · rintro ⟨l, hl, hvisit⟩
      obtain ⟨ref, rfl, hfind⟩ := visit_of_errand hvisit
      exact ⟨by simpa using hcyclic, ref, (Node.extend_mem_leafList_iff _ _).mp hl, hfind⟩
    · rintro ⟨-, ref, hnames, hfind⟩
      refine ⟨.extend ref, (Node.extend_mem_leafList_iff _ _).mpr hnames, ?_⟩
      simp [errand, extendErrand, hfind]

theorem follows_iff_visit {p q : Nat} {d : Definition} (hp : r.definitions[p]? = some d) :
    r.Follows p q ↔ ∃ d', .visit q d' ∈ r.plan inv d := by
  simp only [visit_mem_plan_iff]
  constructor
  · rintro ⟨d₀, ref, d', hp₀, hcyclic, hnames, hfind⟩
    obtain rfl : d₀ = d := Option.some.inj (hp₀.symm.trans hp)
    exact ⟨d', hcyclic, ref, hnames, hfind⟩
  · rintro ⟨d', hcyclic, ref, hnames, hfind⟩
    exact ⟨d, ref, d', hp, hcyclic, hnames, hfind⟩

theorem getElem?_of_visit (hr : r.WellFormed) {d d' : Definition} {q : Nat}
    (h : .visit q d' ∈ r.plan inv d) : r.definitions[q]? = some d' := by
  obtain ⟨-, ref, -, hfind⟩ := visit_mem_plan_iff.mp h
  exact hr.getElem?_of_definition? hfind

theorem isAt_of_mem_singleton {p : Nat} {d : Definition} (hp : r.definitions[p]? = some d) :
    ∀ x ∈ [Errand.visit p d], x.IsAt r := by
  intro x hx
  cases List.mem_singleton.mp hx
  exact hp

theorem isAt_of_mem_plan (hr : r.WellFormed) {d : Definition} :
    ∀ x ∈ r.plan inv d, x.IsAt r := by
  intro x hx
  cases x with
  | settled => trivial
  | visit q d' => exact getElem?_of_visit hr hx

end Registry
end Oval
