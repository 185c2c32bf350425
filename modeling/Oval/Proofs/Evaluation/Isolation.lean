import Oval.Proofs.Evaluation.History

/-! # Nothing leaks from outcomes of before

Without caching an evaluator trusts any store, since it takes no answer from it.  A reset clears the
place of every definition, so what follows cannot tell the store from an empty one.
-/
namespace Oval

namespace Evaluator

variable {e : Evaluator}

theorem trusts_of_uncached (h : e.settings.cacheResults = false) (os : Outcomes) :
    e.Trusts os := by
  intro p d o _ hcached
  rw [cached?, h] at hcached
  cases hcached

theorem evaluateAt_of_uncached (hr : e.registry.WellFormed)
    (h : e.settings.cacheResults = false) (sink : Option Sink) {p : Nat} {d : Definition}
    (hp : e.registry.definitions[p]? = some d) (os : Outcomes) :
    (e.evaluateAt sink p d os).value.1 = e.finding d (e.registry.outcome e.inventory d) := by
  obtain ⟨status, w, effects, hrun, hwalked⟩ := walked_evaluateAt hr sink hp os
  obtain ⟨houtcome, -⟩ := hwalked.eq_outcome hr hp (trusts_of_uncached h os)
  rw [hrun, ← houtcome]

/-- A reset and a session after it go as the session does from an empty store, but for the event
of the reset. -/
theorem reset_bind {α : Type} {os : Outcomes} (hsize : os.size = e.registry.definitionCount)
    (x : Session α) :
    (e.reset >>= fun _ => x) os =
      ⟨(x (.fresh e.registry.definitionCount)).value,
        .event (.outcomesCleared e.registry.definitionCount) ::
          (x (.fresh e.registry.definitionCount)).effects⟩ := by
  have heffects : (e.reset os).effects =
      [.event (.outcomesCleared e.registry.definitionCount)] := rfl
  change Traced.bind (e.reset os) (fun result => x result.2) = _
  rw [Traced.bind, outcomes_reset hsize, heffects]
  rfl

end Evaluator

namespace Turn

theorem run_of_uncached {r : Registry} (hr : r.WellFormed) {t : Turn r}
    (h : t.settings.cacheResults = false) (os : Outcomes) :
    (t.run os).value.1 =
      t.subjects.map fun s => t.evaluator.finding s.2 (r.outcome t.inventory s.2) := by
  have hreset : Session.Ensures (fun _ => True) (fun _ => True) t.evaluator.reset :=
    fun _ _ => ⟨trivial, trivial⟩
  have heval (p : Nat) (d : Definition) (hp : r.definitions[p]? = some d) :
      Session.Ensures (fun _ => True)
        (fun f => f = t.evaluator.finding d (r.outcome t.inventory d))
        (t.evaluator.evaluateAt t.sink p d) :=
    fun os _ => ⟨Evaluator.evaluateAt_of_uncached (e := t.evaluator) hr h t.sink hp os, trivial⟩
  exact eq_map_of_forall₂ (ensures_run hr hreset heval os trivial).1

/-- Whatever is stored, a turn without caching gives the findings that it gives from an empty store;
and after a reset of a store with a place for each definition, turns give the findings, ask the
questions and leave the outcomes that they do from an empty store. -/
theorem isolated_from_store (doc : Document) :
    let r := Registry.ofDocument doc
    (∀ (t : Turn r) (os : Outcomes), t.settings.cacheResults = false →
      (t.run os).value.1 = (t.run (.fresh r.definitionCount)).value.1) ∧
    ∀ (inv : Inventory) (settings : Settings) (turns : List (Turn r)) (os : Outcomes),
      os.size = r.definitionCount →
      let e : Evaluator := ⟨r, inv, settings⟩
      let cleared := (e.reset >>= fun _ => runAll turns) os
      let fresh := runAll turns (.fresh r.definitionCount)
      cleared.value.1 = fresh.value.1 ∧
        queries cleared.effects = queries fresh.effects ∧
        cleared.value.2 = fresh.value.2 := by
  intro r
  have hr : r.WellFormed := Registry.wellFormed_ofDocument doc
  constructor
  · intro t os h
    rw [run_of_uncached hr h, run_of_uncached hr h]
  · intro inv settings turns os hsize e cleared fresh
    have hcleared : cleared = ⟨fresh.value,
        .event (.outcomesCleared r.definitionCount) :: fresh.effects⟩ :=
      Evaluator.reset_bind (e := e) hsize (runAll turns)
    rw [hcleared]
    exact ⟨rfl, rfl, rfl⟩

/-- The store tells of another machine, on which both definitions held.  Only an evaluator that
caches believes it, and none does after a reset. -/
theorem isolated_from_store_foreign :
    let doc : Document :=
      { definitions := [.extending "a" ["b"], .extending "b" ["missing"]] }
    let inv : Inventory := ⟨fun _ _ => .ok [], fun _ => .ok none⟩
    let os : Outcomes := ⟨[some ⟨.holds, []⟩, some ⟨.holds, []⟩]⟩
    let fresh : Outcomes := .fresh (Registry.ofDocument doc).definitionCount
    let caching : Turn (.ofDocument doc) := ⟨inv, {}, none, .identifier "a"⟩
    let uncached : Turn (.ofDocument doc) :=
      ⟨inv, { cacheResults := false }, none, .identifier "a"⟩
    let turns := [caching, uncached]
    let cleared := (caching.evaluator.reset >>= fun _ => runAll turns) os
    (caching.run os).value.1 ≠ (caching.run fresh).value.1 ∧
      (uncached.run os).value.1 = (uncached.run fresh).value.1 ∧
        cleared.value.1 = (runAll turns fresh).value.1 ∧
          queries cleared.effects = queries (runAll turns fresh).effects ∧
            cleared.value.2 = (runAll turns fresh).value.2 := by
  intro doc inv os fresh caching uncached turns cleared
  have hbelieved : (caching.run os).value.1 ≠ (caching.run fresh).value.1 := by
    dsimp only [caching, fresh, os, inv, doc]
    decide +kernel
  obtain ⟨huncached, hcleared⟩ := isolated_from_store doc
  exact ⟨hbelieved, huncached uncached os rfl, hcleared inv {} turns os rfl⟩

end Turn
end Oval
