import Oval.Proofs.Diagnostic
import Oval.Proofs.Evaluation.Walk

/-! # Turns at a registry

A registry is asked again and again, by evaluators of different inventories and settings.  A turn
evaluates the definitions that its request is about, one after the other, or clears the store.  What
every single evaluation ensures, and an invariant of the store, therefore carry over to every
sequence of turns.
-/
namespace Oval

namespace Evaluator

variable {e : Evaluator}

/-- The finding that is handed out for an outcome. -/
def finding (e : Evaluator) (d : Definition) (o : Outcome) : Finding :=
  ⟨d.id, d.title, o.status, Context.cut e.settings.maxDiagnostics o.diagnostics⟩

/-- The effects after the walk: increments, an event and the delivery. -/
def closing (sink : Option Sink) (f : Finding) : List Effect :=
  .count (.definitionEvaluated f.status) :: .count .evaluationTimed ::
    .event (.definitionEvaluated f.definitionId f.status f.diagnostics.length) ::
    (deliver sink f).effects

theorem queries_closing (sink : Option Sink) (f : Finding) : queries (closing sink f) = [] := by
  cases sink with
  | none => rfl
  | some sink => cases sink <;> rfl

/-- A definition is evaluated by visiting it, from the store and an empty context. -/
theorem walked_definitionStatus (hr : e.registry.WellFormed) {p : Nat} {d : Definition}
    (hp : e.registry.definitions[p]? = some d) (os : Outcomes) :
    ∃ status w effects,
      e.definitionStatus p d { outcomes := os } =
        ⟨((status, w.context.recorded), { outcomes := w.outcomes }), effects⟩ ∧
      Walked e [.visit p d] { outcomes := os } [status] w effects := by
  have hrank : e.registry.rank p < e.registry.definitionCount :=
    Registry.rank_lt_definitionCount hr (Registry.lt_definitionCount_of_getElem? hp)
  have hvisits : e.Visits p d (e.nestedStatus (e.registry.definitionCount + 1) [] (p, d)) := by
    apply visits_nestedStatus hr _ _ hp
    · exact Nat.lt_succ_of_lt hrank
    · intro q hq
      exact absurd hq List.not_mem_nil
  obtain ⟨status, w, effects, hrun, hwalked⟩ := hvisits { outcomes := os }
  exact ⟨status, w, effects, Step.inOwnContext_eq hrun, hwalked⟩

/-- After the walk of a definition the finding is closed off, and only there the sink has a part. -/
theorem evaluateAt_eq (e : Evaluator) (sink : Option Sink) (p : Nat) (d : Definition)
    (os : Outcomes) :
    let result := e.definitionStatus p d { outcomes := os }
    let f := e.finding d ⟨result.value.1.1, result.value.1.2⟩
    e.evaluateAt sink p d os =
      ⟨(f, result.value.2.outcomes), result.effects ++ closing sink f⟩ := by
  simp only [evaluateAt, Context.finish_eq_cut]
  cases sink with
  | none => rfl
  | some sink => cases sink <;> rfl

theorem walked_evaluateAt (hr : e.registry.WellFormed) (sink : Option Sink) {p : Nat}
    {d : Definition} (hp : e.registry.definitions[p]? = some d) (os : Outcomes) :
    ∃ status w effects,
      e.evaluateAt sink p d os =
        ⟨(e.finding d ⟨status, w.context.recorded⟩, w.outcomes),
          effects ++ closing sink (e.finding d ⟨status, w.context.recorded⟩)⟩ ∧
      Walked e [.visit p d] { outcomes := os } [status] w effects := by
  obtain ⟨status, w, effects, hrun, hwalked⟩ := walked_definitionStatus hr hp os
  refine ⟨status, w, effects, ?_, hwalked⟩
  rw [evaluateAt_eq, hrun]

theorem evaluate_of_definition? {id : String} {p : Nat} {d : Definition}
    (h : e.registry.definition? id = some (p, d)) (sink : Option Sink) (os : Outcomes) :
    (e.evaluate sink id os).value.1 = .ok (e.evaluateAt sink p d os).value.1 := by
  rw [evaluate, h]
  rfl

theorem effects_evaluate_of_definition? {id : String} {p : Nat} {d : Definition}
    (h : e.registry.definition? id = some (p, d)) (sink : Option Sink) (os : Outcomes) :
    (e.evaluate sink id os).effects = (e.evaluateAt sink p d os).effects := by
  rw [evaluate, h]
  exact List.append_nil _

theorem get?_reset (os : Outcomes) (p : Nat) : (e.reset os).value.2.get? p =
    if p < e.registry.definitionCount then none else os.get? p := by
  have hmem : p ∈ (Registry.numbered e.registry.definitions).map Prod.fst ↔
      p < e.registry.definitionCount := by
    rw [List.mem_map]
    constructor
    · rintro ⟨⟨q, d⟩, hq, rfl⟩
      exact Registry.lt_definitionCount_of_getElem? (Registry.mem_numbered_iff.mp hq)
    · intro hp
      exact ⟨(p, _), Registry.mem_numbered_iff.mpr (List.getElem?_eq_getElem hp), rfl⟩
  rw [← if_congr hmem rfl rfl]
  exact Outcomes.get?_clearAll os _ p

theorem outcomes_reset {os : Outcomes} (hsize : os.size = e.registry.definitionCount) :
    (e.reset os).value.2 = .fresh e.registry.definitionCount := by
  have hsame : (e.reset os).value.2.size = os.size := Outcomes.size_clearAll os _
  apply Outcomes.ext_get?
  · rw [hsame, hsize, Outcomes.size_fresh]
  · intro p
    rw [get?_reset, Outcomes.get?_fresh]
    split
    · rfl
    · rename_i hp
      apply Outcomes.get?_eq_none_of_size_le
      omega

end Evaluator

namespace Session

variable {α β : Type} {I : Outcomes → Prop} {Q : α → Prop}

theorem effects_mapM_cons (f : α → Evaluator.Session β) (a : α) (l : List α) (os : Outcomes) :
    ((a :: l).mapM f os).effects =
      (f a os).effects ++ (l.mapM f (f a os).value.2).effects := by
  rw [List.mapM_cons]
  exact congrArg ((f a os).effects ++ ·) (List.append_nil _)

theorem value_mapM_cons (f : α → Evaluator.Session β) (a : α) (l : List α) (os : Outcomes) :
    ((a :: l).mapM f os).value.1 = (f a os).value.1 :: (l.mapM f (f a os).value.2).value.1 := by
  rw [List.mapM_cons]
  rfl

theorem store_mapM_cons (f : α → Evaluator.Session β) (a : α) (l : List α) (os : Outcomes) :
    ((a :: l).mapM f os).value.2 = (l.mapM f (f a os).value.2).value.2 := by
  rw [List.mapM_cons]
  rfl

/-- From every store with `I` the session gives a value with `Q` and leaves a store with `I`. -/
def Ensures (I : Outcomes → Prop) (Q : α → Prop) (x : Evaluator.Session α) : Prop :=
  ∀ os, I os → Q (x os).value.1 ∧ I (x os).value.2

theorem ensures_pure {a : α} (h : Q a) : Ensures I Q (pure a) := fun _ hos => ⟨h, hos⟩

theorem ensures_bind {x : Evaluator.Session α} {f : α → Evaluator.Session β} {R : β → Prop}
    (hx : Ensures I Q x) (hf : ∀ a, Q a → Ensures I R (f a)) : Ensures I R (x >>= f) := by
  intro os hos
  obtain ⟨hvalue, hstore⟩ := hx os hos
  exact hf _ hvalue _ hstore

theorem ensures_mapM {f : α → Evaluator.Session β} {R : α → β → Prop} (l : List α)
    (h : ∀ a ∈ l, Ensures I (R a) (f a)) : Ensures I (List.Forall₂ R l) (l.mapM f) := by
  induction l with
  | nil => exact ensures_pure .nil
  | cons a l ih =>
    have hrest := ih fun b hb => h b (List.mem_cons_of_mem _ hb)
    rw [List.mapM_cons]
    apply ensures_bind (h a List.mem_cons_self)
    intro b hb
    apply ensures_bind hrest
    intro bs hbs
    exact ensures_pure (.cons hb hbs)

theorem ensures_reset {e : Evaluator} (S : Definition → Outcome → Prop) :
    Ensures (e.registry.Stored S) (fun _ => True) e.reset := by
  intro os _
  refine ⟨trivial, ?_⟩
  intro p d o hp ho
  rw [Evaluator.get?_reset, if_pos (Registry.lt_definitionCount_of_getElem? hp)] at ho
  cases ho

end Session

inductive Request (r : Registry)
  | definition (position : Fin r.definitions.length)
  | identifier (id : String)
  | everything
  | reset

/-- A request and the evaluator that serves it. -/
structure Turn (r : Registry) where
  inventory : Inventory
  settings : Settings
  sink : Option Evaluator.Sink
  request : Request r

namespace Turn

variable {r : Registry} (t : Turn r)

def evaluator : Evaluator where
  registry := r
  inventory := t.inventory
  settings := t.settings

/-- The findings of the turn.  There are none if no definition has the identifier. -/
def run : Evaluator.Session (List Finding) :=
  match t.request with
  | .definition position => do
    pure [← t.evaluator.evaluateAt t.sink position r.definitions[position]]
  | .identifier id => do
    match ← t.evaluator.evaluate t.sink id with
    | .ok f => pure [f]
    | .error _ => pure []
  | .everything => t.evaluator.evaluateAll t.sink
  | .reset => do
    t.evaluator.reset
    pure []

/-- The definitions that the turn evaluates, in order and with their positions. -/
def subjects : List (Nat × Definition) :=
  match t.request with
  | .definition position => [(position, r.definitions[position])]
  | .identifier id => (r.definition? id).toList
  | .everything => Registry.numbered r.definitions
  | .reset => []

variable {t}

theorem getElem?_of_mem_subjects (hr : r.WellFormed) {p : Nat} {d : Definition}
    (h : (p, d) ∈ t.subjects) : r.definitions[p]? = some d := by
  unfold subjects at h
  split at h
  · rename_i position _
    cases List.mem_singleton.mp h
    exact List.getElem?_eq_getElem position.isLt
  · exact hr.getElem?_of_definition? (Option.mem_toList.mp h)
  · exact Registry.mem_numbered_iff.mp h
  · exact absurd h List.not_mem_nil

/-- Except for clearing the store, a turn evaluates its subjects in order. -/
theorem run_eq_mapM (h : t.request ≠ .reset) :
    t.run = t.subjects.mapM fun s => t.evaluator.evaluateAt t.sink s.1 s.2 := by
  unfold run subjects
  split
  · rw [List.mapM_cons, List.mapM_nil]
    rfl
  · rename_i id _
    rw [Evaluator.evaluate]
    cases hfind : r.definition? id with
    | none =>
      simp only [evaluator, hfind]
      rfl
    | some s =>
      simp only [evaluator, hfind, bind_assoc, pure_bind]
      rw [Option.toList_some, List.mapM_cons, List.mapM_nil]
      rfl
  · rfl
  · rename_i hreset
    exact absurd hreset h

/-- A turn gives one finding for each subject and keeps an invariant, if every evaluation and the
reset do. -/
theorem ensures_run (hr : r.WellFormed) {I : Outcomes → Prop} {Q : Definition → Finding → Prop}
    (hreset : Session.Ensures I (fun _ => True) t.evaluator.reset)
    (heval : ∀ p d, r.definitions[p]? = some d →
      Session.Ensures I (Q d) (t.evaluator.evaluateAt t.sink p d)) :
    Session.Ensures I (List.Forall₂ (fun s f => Q s.2 f) t.subjects) t.run := by
  by_cases h : t.request = .reset
  · have hsubjects : t.subjects = [] := by rw [subjects, h]
    have hrun : t.run = t.evaluator.reset >>= fun _ => pure [] := by rw [run, h]
    rw [hsubjects, hrun]
    exact Session.ensures_bind hreset fun _ _ => Session.ensures_pure .nil
  · rw [run_eq_mapM h]
    apply Session.ensures_mapM
    intro s hs
    exact heval s.1 s.2 (getElem?_of_mem_subjects hr hs)

end Turn

def Turn.runAll {r : Registry} (turns : List (Turn r)) : Evaluator.Session (List (List Finding)) :=
  turns.mapM Turn.run

/-- The findings of turns that begin with an empty store. -/
def Turn.findings {r : Registry} (turns : List (Turn r)) : List (List Finding) :=
  (runAll turns (.fresh r.definitionCount)).value.1

/-- The store that turns lead to from an empty one. -/
def Turn.reached {r : Registry} (turns : List (Turn r)) : Outcomes :=
  (runAll turns (.fresh r.definitionCount)).value.2

theorem Turn.ensures_runAll {r : Registry} (hr : r.WellFormed) {I : Outcomes → Prop}
    {Q : Turn r → Definition → Finding → Prop} (turns : List (Turn r))
    (hreset : ∀ t ∈ turns, Session.Ensures I (fun _ => True) t.evaluator.reset)
    (heval : ∀ t ∈ turns, ∀ p d, r.definitions[p]? = some d →
      Session.Ensures I (Q t d) (t.evaluator.evaluateAt t.sink p d)) :
    Session.Ensures I
      (List.Forall₂ (fun t fs => List.Forall₂ (fun s f => Q t s.2 f) t.subjects fs) turns)
      (Turn.runAll turns) := by
  apply Session.ensures_mapM
  intro t ht
  exact ensures_run hr (hreset t ht) (heval t ht)

end Oval
