import Oval.Proofs.Evaluation.Reference
import Oval.Proofs.Evaluation.Session
import Oval.Proofs.Failure

/-! # Findings do not depend on what was asked before

As long as all evaluators ask the same inventory, every store that turns lead to is consistent, so
a stored outcome is as good as the evaluation that it replaces.
-/
namespace Oval

/-- The outcome of evaluating a definition on its own: the store is empty and nothing is replayed
from it. -/
def Registry.alone (r : Registry) (inv : Inventory) (p : Nat) (d : Definition) : Outcome :=
  let e : Evaluator := { registry := r, inventory := inv, settings := { cacheResults := false } }
  let result := (e.definitionStatus p d { outcomes := .fresh r.definitionCount }).value
  ⟨result.1.1, result.1.2⟩

theorem Registry.alone_eq_outcome {r : Registry} (hr : r.WellFormed) (inv : Inventory) {p : Nat}
    {d : Definition} (hp : r.definitions[p]? = some d) : r.alone inv p d = r.outcome inv d := by
  let e : Evaluator := { registry := r, inventory := inv, settings := { cacheResults := false } }
  obtain ⟨status, w, effects, hrun, hwalked⟩ :=
    Evaluator.walked_definitionStatus (e := e) hr hp (.fresh r.definitionCount)
  have htrust : e.Trusts (.fresh r.definitionCount) :=
    Evaluator.trusts_of_consistent (Registry.consistent_fresh _)
  have houtcome := (hwalked.eq_outcome hr hp htrust).1
  have halone : r.alone inv p d = ⟨status, w.context.recorded⟩ := by
    simp only [Registry.alone]
    rw [hrun]
  rw [halone, houtcome]

theorem Evaluator.ensures_evaluateAt_outcome {e : Evaluator} (hr : e.registry.WellFormed)
    (sink : Option Sink) {p : Nat} {d : Definition} (hp : e.registry.definitions[p]? = some d) :
    Session.Ensures (e.registry.Consistent e.inventory)
      (fun f => f = e.finding d (e.registry.outcome e.inventory d)) (e.evaluateAt sink p d) := by
  intro os hos
  obtain ⟨status, w, effects, hrun, hwalked⟩ := walked_evaluateAt hr sink hp os
  obtain ⟨houtcome, hwritten⟩ := hwalked.eq_outcome hr hp (trusts_of_consistent hos)
  rw [hrun]
  constructor
  · rw [← houtcome]
  · exact hos.overwritten hwritten

theorem Turn.ensures_runAll_outcome {r : Registry} (hr : r.WellFormed) {inv : Inventory}
    (turns : List (Turn r)) (hinv : ∀ t ∈ turns, t.inventory = inv) :
    Session.Ensures (r.Consistent inv)
      (fun fs => fs = turns.map fun t => t.subjects.map fun s =>
        t.evaluator.finding s.2 (r.outcome inv s.2))
      (Turn.runAll turns) := by
  have heval (t : Turn r) (ht : t ∈ turns) (p : Nat) (d : Definition)
      (hp : r.definitions[p]? = some d) :
      Session.Ensures (r.Consistent inv) (fun f => f = t.evaluator.finding d (r.outcome inv d))
        (t.evaluator.evaluateAt t.sink p d) := by
    have hone := Evaluator.ensures_evaluateAt_outcome (e := t.evaluator) hr t.sink hp
    rw [show t.evaluator.inventory = inv from hinv t ht] at hone
    exact hone
  intro os hos
  have hreset (t : Turn r) (_ : t ∈ turns) :
      Session.Ensures (r.Consistent inv) (fun _ => True) t.evaluator.reset :=
    Session.ensures_reset (e := t.evaluator) _
  obtain ⟨hfindings, hafter⟩ := Turn.ensures_runAll hr turns hreset heval os hos
  refine ⟨?_, hafter⟩
  apply eq_map_of_forall₂
  exact hfindings.imp fun t fs h => eq_map_of_forall₂ h

/-- Whatever turns are taken, in whatever order and with whatever settings, each reports of each of
its definitions the status that evaluating it alone gives.  It reports the diagnostics of that
evaluation too, all of them up to the limit of its own evaluator, else the first ones and a warning
about the number left over, under the definition of the last one reported. -/
theorem Turn.runAll_eq_alone (doc : Document) (inv : Inventory)
    (turns : List (Turn (.ofDocument doc))) (hinv : ∀ t ∈ turns, t.inventory = inv) :
    (Turn.runAll turns (.fresh (Registry.ofDocument doc).definitionCount)).value.1 =
      turns.map fun t => t.subjects.map fun (p, d) =>
        let o := (Registry.ofDocument doc).alone inv p d
        let limit := t.settings.maxDiagnostics
        let kept := o.diagnostics.take limit
        let owner := (kept.getLast?.map Diagnostic.definitionId).getD ""
        ⟨d.id, d.title, o.status,
          if o.diagnostics.length ≤ limit then o.diagnostics
          else kept ++ [.warning owner (toString (o.diagnostics.length - limit) ++
            " further diagnostics dropped (limit " ++ toString limit ++ ")")]⟩ := by
  have hr := Registry.wellFormed_ofDocument doc
  obtain ⟨hfindings, -⟩ :=
    Turn.ensures_runAll_outcome hr turns hinv _ (Registry.consistent_fresh _)
  rw [hfindings]
  apply List.map_congr_left
  intro t _
  apply List.map_congr_left
  rintro ⟨p, d⟩ hmem
  have halone := Registry.alone_eq_outcome hr inv (Turn.getElem?_of_mem_subjects hr hmem)
  have hfinding := congrArg (t.evaluator.finding d) halone.symm
  exact hfinding.trans (congrArg (Finding.mk d.id d.title _) (Context.cut_eq _ _))

/-- Both references of "c" fail, and "a" reaches "c" in two ways. -/
theorem Turn.runAll_eq_alone_shared :
    let doc : Document := { definitions := [.extending "a" ["b", "c"], .extending "b" ["c"],
      .extending "c" ["missing", "lost"]] }
    let inv : Inventory := ⟨fun _ _ => .ok [], fun _ => .ok none⟩
    let turns : List (Turn (.ofDocument doc)) := [
      ⟨inv, { maxDiagnostics := 1 }, none, .identifier "c"⟩,
      ⟨inv, {}, none, .identifier "a"⟩,
      ⟨inv, { cacheResults := false }, none, .everything⟩,
      ⟨inv, {}, none, .reset⟩,
      ⟨inv, { maxDiagnostics := 0 }, some .accepting, .identifier "b"⟩]
    let both : List Diagnostic := [.error "c" "unresolved definition reference: missing",
      .error "c" "unresolved definition reference: lost"]
    (∀ t ∈ turns, t.inventory = inv) ∧
      (Turn.runAll turns (.fresh (Registry.ofDocument doc).definitionCount)).value.1 = [
        [⟨"c", "", .error, [.error "c" "unresolved definition reference: missing",
          .warning "c" "1 further diagnostics dropped (limit 1)"]⟩],
        [⟨"a", "", .error, both⟩],
        [⟨"a", "", .error, both⟩, ⟨"b", "", .error, both⟩, ⟨"c", "", .error, both⟩],
        [],
        [⟨"b", "", .error, [.warning "" "2 further diagnostics dropped (limit 0)"]⟩]] := by
  intro doc inv turns both
  have hinv : ∀ t ∈ turns, t.inventory = inv := by simp [turns]
  refine ⟨hinv, ?_⟩
  rw [Turn.runAll_eq_alone doc inv turns hinv]
  decide +kernel

end Oval
