import Oval.Proofs.Evaluation.Nesting

/-! # Findings are delivered once

An open sink hears the finding of every definition that a request is about, once and in the order of
the requests, and hears nothing of the definitions that it extends.  Nobody hears back from a sink:
findings, outcomes and the questions to the inventory are the same without one.
-/
namespace Oval

theorem deliveries_eq_nil {es : List Effect} (h : ∀ effect ∈ es, effect.IsWork) :
    deliveries es = [] := by
  apply List.filterMap_eq_nil_iff.mpr
  intro effect heffect
  cases effect with
  | deliver f => exact (h _ heffect).elim
  | _ => rfl

namespace Evaluator

def heard (sink : Option Sink) (fs : List Finding) : List Finding :=
  if sink = some .accepting then fs else []

@[simp] theorem heard_nil (sink : Option Sink) : heard sink [] = [] := ite_self _

theorem heard_append (sink : Option Sink) (fs gs : List Finding) :
    heard sink (fs ++ gs) = heard sink fs ++ heard sink gs := by
  unfold heard
  split <;> rfl

theorem deliveries_closing (sink : Option Sink) (f : Finding) :
    deliveries (closing sink f) = heard sink [f] := by
  cases sink with
  | none => rfl
  | some sink => cases sink <;> rfl

variable {e : Evaluator}

theorem deliveries_evaluateAt (hr : e.registry.WellFormed) (sink : Option Sink) {p : Nat}
    {d : Definition} (hp : e.registry.definitions[p]? = some d) (os : Outcomes) :
    deliveries (e.evaluateAt sink p d os).effects =
      heard sink [(e.evaluateAt sink p d os).value.1] := by
  obtain ⟨status, w, effects, hrun, hwalked⟩ := walked_evaluateAt hr sink hp os
  rw [hrun, deliveries_append, deliveries_closing, deliveries_eq_nil hwalked.isWork_of_visit]
  rfl

theorem evaluate_of_definition?_eq_none {id : String} (h : e.registry.definition? id = none)
    (sink : Option Sink) (os : Outcomes) :
    e.evaluate sink id os = ⟨(.error (.danglingReference .definition id), os), []⟩ := by
  rw [evaluate, h]
  rfl

end Evaluator

namespace Session

variable {α β : Type}

/-- The sink hears of the session what is found in its value. -/
def Delivers (sink : Option Evaluator.Sink) (found : α → List Finding)
    (x : Evaluator.Session α) : Prop :=
  ∀ os, deliveries (x os).effects = Evaluator.heard sink (found (x os).value.1)

theorem delivers_mapM {f : α → Evaluator.Session β} {sink : Option Evaluator.Sink}
    {found : β → List Finding} (l : List α) (h : ∀ a ∈ l, Delivers sink found (f a)) :
    Delivers sink (List.flatMap found) (l.mapM f) := by
  induction l with
  | nil =>
    intro os
    exact (Evaluator.heard_nil sink).symm
  | cons a l ih =>
    intro os
    have hrest := ih fun b hb => h b (List.mem_cons_of_mem _ hb)
    rw [effects_mapM_cons, value_mapM_cons, deliveries_append, h a List.mem_cons_self, hrest,
      List.flatMap_cons, Evaluator.heard_append]

/-- Two sessions give the same value, leave the same store and ask the same questions. -/
def Alike (x y : Evaluator.Session α) : Prop :=
  ∀ os, (x os).value = (y os).value ∧ queries (x os).effects = queries (y os).effects

theorem alike_refl (x : Evaluator.Session α) : Alike x x := fun _ => ⟨rfl, rfl⟩

theorem alike_mapM {f g : α → Evaluator.Session β} (l : List α) (h : ∀ a ∈ l, Alike (f a) (g a)) :
    Alike (l.mapM f) (l.mapM g) := by
  induction l with
  | nil => exact alike_refl _
  | cons a l ih =>
    intro os
    obtain ⟨hvalue, hqueries⟩ := h a List.mem_cons_self os
    obtain ⟨hvalues, hrest⟩ := ih (fun b hb => h b (List.mem_cons_of_mem _ hb)) (g a os).value.2
    constructor
    · apply Prod.ext
      · rw [value_mapM_cons, value_mapM_cons, hvalue, hvalues]
      · rw [store_mapM_cons, store_mapM_cons, hvalue, hvalues]
    · rw [effects_mapM_cons, effects_mapM_cons, queries_append, queries_append, hvalue, hqueries,
        hrest]

theorem alike_evaluateAt (e : Evaluator) (sink sink' : Option Evaluator.Sink) (p : Nat)
    (d : Definition) : Alike (e.evaluateAt sink p d) (e.evaluateAt sink' p d) := by
  intro os
  rw [Evaluator.evaluateAt_eq, Evaluator.evaluateAt_eq]
  refine ⟨rfl, ?_⟩
  rw [queries_append, queries_append, Evaluator.queries_closing, Evaluator.queries_closing]

end Session

namespace Turn

variable {r : Registry}

def withSink (sink : Option Evaluator.Sink) (t : Turn r) : Turn r := { t with sink }

theorem delivers_run (hr : r.WellFormed) (t : Turn r) : Session.Delivers t.sink id t.run := by
  by_cases h : t.request = .reset
  · intro os
    have hrun : t.run = t.evaluator.reset >>= fun _ => pure [] := by rw [run, h]
    rw [hrun]
    exact (Evaluator.heard_nil _).symm
  · have hone : Session.Delivers t.sink (List.flatMap fun f => [f])
        (t.subjects.mapM fun s => t.evaluator.evaluateAt t.sink s.1 s.2) := by
      apply Session.delivers_mapM
      intro s hs
      exact Evaluator.deliveries_evaluateAt (e := t.evaluator) hr t.sink
        (getElem?_of_mem_subjects hr hs)
    intro os
    rw [run_eq_mapM h, hone os, List.flatMap_singleton', id]

theorem alike_run_withSink (t : Turn r) (sink : Option Evaluator.Sink) :
    Session.Alike (t.withSink sink).run t.run := by
  by_cases h : t.request = .reset
  · have hrun : (t.withSink sink).run = t.run := by rw [run, run, withSink, h]; rfl
    rw [hrun]
    exact Session.alike_refl _
  · rw [run_eq_mapM h, run_eq_mapM (t := t.withSink sink) h]
    apply Session.alike_mapM
    intro s _
    exact Session.alike_evaluateAt t.evaluator sink t.sink s.1 s.2

theorem alike_runAll_withSink (turns : List (Turn r)) (sink : Option Evaluator.Sink) :
    Session.Alike (runAll (turns.map (withSink sink))) (runAll turns) := by
  rw [runAll, List.mapM_map]
  exact Session.alike_mapM turns fun t _ => alike_run_withSink t sink

/-- From any store, turns give one finding for each definition that they are about, in order.  With
whatever sink they are taken they give the same findings, leave the same outcomes and ask the same
questions, and the sink hears exactly these findings if it is open and nothing otherwise.  A nested
evaluation delivers nothing, and an unknown identifier does nothing at all. -/
theorem delivered_once (doc : Document) (turns : List (Turn (.ofDocument doc))) (os : Outcomes) :
    let r := Registry.ofDocument doc
    let run := runAll turns os
    List.Forall₂ (fun t fs =>
      List.Forall₂ (fun s f => f.definitionId = s.2.id ∧ f.title = s.2.title) t.subjects fs)
      turns run.value.1 ∧
    (∀ sink,
      let other := runAll (turns.map (withSink sink)) os
      other.value = run.value ∧ queries other.effects = queries run.effects ∧
        deliveries other.effects = if sink = some .accepting then run.value.1.flatten else []) ∧
    ∀ (inv : Inventory) (settings : Settings),
      let e : Evaluator := ⟨r, inv, settings⟩
      (∀ p d held depth w, r.definitions[p]? = some d → r.Nesting (p :: held) →
        r.definitionCount ≤ depth + held.length →
        deliveries (e.nestedStatus depth held (p, d) w).effects = []) ∧
      ∀ sink id, r.definition? id = none →
        e.evaluate sink id os = ⟨(.error (.danglingReference .definition id), os), []⟩ := by
  intro r run
  have hr : r.WellFormed := Registry.wellFormed_ofDocument doc
  refine ⟨?_, ?_, ?_⟩
  · have hreset (t : Turn r) (_ : t ∈ turns) :
        Session.Ensures (fun _ => True) (fun _ => True) t.evaluator.reset :=
      fun _ _ => ⟨trivial, trivial⟩
    have heval (t : Turn r) (_ : t ∈ turns) (p : Nat) (d : Definition)
        (_ : r.definitions[p]? = some d) :
        Session.Ensures (fun _ => True) (fun f => f.definitionId = d.id ∧ f.title = d.title)
          (t.evaluator.evaluateAt t.sink p d) :=
      fun _ _ => ⟨⟨rfl, rfl⟩, trivial⟩
    exact (ensures_runAll hr turns hreset heval os trivial).1
  · intro sink other
    obtain ⟨hvalue, hqueries⟩ := alike_runAll_withSink turns sink os
    refine ⟨hvalue, hqueries, ?_⟩
    have hdelivers : Session.Delivers sink (List.flatMap id)
        (runAll (turns.map (withSink sink))) := by
      apply Session.delivers_mapM
      intro t ht
      obtain ⟨t', -, rfl⟩ := List.mem_map.mp ht
      exact delivers_run hr (t'.withSink sink)
    rw [hdelivers os, hvalue, List.flatMap_id]
    rfl
  · intro inv settings e
    constructor
    · intro p d held depth w hp hnesting hdepth
      exact deliveries_eq_nil (Evaluator.isWork_nestedStatus (e := e) hr hnesting hp hdepth w)
    · intro sink id hid
      exact Evaluator.evaluate_of_definition?_eq_none (e := e) hid sink os

theorem delivered_once_nested :
    let doc : Document := { definitions :=
      [.extending "a" ["b"], .extending "b" ["missing"], .extending "a" ["b", "b"]] }
    let r := Registry.ofDocument doc
    let e : Evaluator := ⟨r, ⟨fun _ _ => .ok [], fun _ => .ok none⟩, {}⟩
    (r.definitions[1]? = some (.extending "b" ["missing"]) ∧ r.Nesting [1, 2] ∧
      deliveries
        (e.nestedStatus 2 [2] (1, .extending "b" ["missing"]) { outcomes := .fresh 3 }).effects =
          []) ∧
    r.definition? "missing" = none ∧
      (e.evaluate (some .accepting) "missing" (.fresh 3)).effects = [] := by
  intro doc r e
  have hb : r.definitions[1]? = some (.extending "b" ["missing"]) := rfl
  have hmissing : r.definition? "missing" = none := by decide +kernel
  have hfollows : r.Follows 2 1 :=
    ⟨.extending "a" ["b", "b"], "b", .extending "b" ["missing"], rfl, by decide +kernel,
      .child List.mem_cons_self (.leaf false none), rfl⟩
  have hnesting : r.Nesting [1, 2] := .extension (.request (by decide)) hfollows
  obtain ⟨-, -, h⟩ := delivered_once doc [] (.fresh 3)
  obtain ⟨hnested, hunknown⟩ := h e.inventory e.settings
  refine ⟨⟨hb, hnesting, ?_⟩, hmissing, ?_⟩
  · exact hnested 1 _ [2] 2 _ hb hnesting (by decide)
  · exact congrArg Traced.effects (hunknown (some .accepting) "missing" hmissing)

/-- Two definitions share an identifier; "b" is extended by both and heard of once a request. -/
example :
    let doc : Document := { definitions :=
      [.extending "a" ["b"], .extending "b" ["missing"], .extending "a" ["b", "b"]] }
    let inv : Inventory := ⟨fun _ _ => .ok [], fun _ => .ok none⟩
    let turns : List (Turn (.ofDocument doc)) := [
      ⟨inv, {}, some .accepting, .everything⟩,
      ⟨inv, {}, some .accepting, .identifier "missing"⟩,
      ⟨inv, {}, some .closed, .identifier "b"⟩,
      ⟨inv, { cacheResults := false }, some .accepting, .identifier "a"⟩]
    (deliveries (runAll turns (.fresh 3)).effects).map Finding.definitionId =
      ["a", "b", "a", "a"] := by
  decide +kernel

end Turn
end Oval
