import Oval.Proofs.Evaluation.Plan

/-! # Walks as derivations

`Walked` says step by step how an evaluator gets through a list of errands: what it answers, what
it leaves in the store and in the context, and which effects it has.  A visit is either replayed
from the store or goes through the plan of the definition visited.  The evaluator follows these
rules whatever the store holds: the rank of a definition bounds the depth that a visit needs, and
no definition is visited while it is held.
-/
namespace Oval

def Context.mergeEffects (c : Context) (ds : List Diagnostic) : List Effect :=
  (c.fresh ds).map fun _ => .count .diagnosticRecorded

theorem Context.queries_mergeEffects (c : Context) (ds : List Diagnostic) :
    queries (c.mergeEffects ds) = [] := by
  apply List.filterMap_eq_nil_iff.mpr
  intro effect h
  obtain ⟨_, -, rfl⟩ := List.mem_map.mp h
  rfl

theorem Context.recorded_merge_empty (ds : List Diagnostic) :
    (({} : Context).merge ds).recorded = ds := by
  simp [fresh]

namespace Registry

variable {r : Registry} {S : Definition → Outcome → Prop}

/-- Every stored outcome has the property, for the definition at its position. -/
def Stored (r : Registry) (S : Definition → Outcome → Prop) (os : Outcomes) : Prop :=
  ∀ p d o, r.definitions[p]? = some d → os.get? p = some o → S d o

theorem stored_fresh (count : Nat) : r.Stored S (.fresh count) := by
  intro p d o _ h
  rw [Outcomes.get?_fresh] at h
  cases h

theorem Stored.store {os : Outcomes} (h : r.Stored S os) {p : Nat} {d : Definition} {o : Outcome}
    (hp : r.definitions[p]? = some d) (ho : S d o) : r.Stored S (os.store p o) := by
  intro q d' o' hq hget
  rw [Outcomes.get?_store] at hget
  split at hget
  · rename_i hsame
    obtain rfl : d = d' := Option.some.inj (hp.symm.trans (hsame.1 ▸ hq))
    cases hget
    exact ho
  · exact h q d' o' hq hget

end Registry

theorem Evaluator.get?_of_cached? {e : Evaluator} {os : Outcomes} {p : Nat} {o : Outcome}
    (h : e.cached? os p = some o) : os.get? p = some o := by
  unfold cached? at h
  split at h
  · exact h
  · cases h

/-- Getting through errands from one state to another, with the answers and the effects. -/
inductive Walked (e : Evaluator) :
    List Errand → Walk → List Status → Walk → List Effect → Prop
  | done (w : Walk) : Walked e [] w [] w []
  | settled {status : Status} {diagnostic : Option Diagnostic} {effects more : List Effect}
    {rest : List Errand} {w w' : Walk} {answers : List Status}
    (h : Walked e rest { w with context := w.context.note diagnostic } answers w' more) :
    Walked e (.settled status diagnostic effects :: rest) w (status :: answers) w'
      (effects ++ more)
  | replayed {p : Nat} {d : Definition} {outcome : Outcome} {more : List Effect}
    {rest : List Errand} {w w' : Walk} {answers : List Status}
    (hit : e.cached? w.outcomes p = some outcome)
    (h : Walked e rest { w with context := w.context.merge outcome.diagnostics } answers w' more) :
    Walked e (.visit p d :: rest) w (outcome.status :: answers) w'
      (.count .definitionCached :: w.context.mergeEffects outcome.diagnostics ++ more)
  | entered {p : Nat} {d : Definition} {effects more : List Effect} {rest : List Errand}
    {w inner w' : Walk} {innerAnswers answers : List Status}
    (miss : e.cached? w.outcomes p = none)
    (tree : Walked e (e.registry.plan e.inventory d) { outcomes := w.outcomes } innerAnswers inner
      effects)
    (h : Walked e rest
      { outcomes := inner.outcomes.store p
          ⟨e.registry.conclude d innerAnswers, inner.context.recorded⟩
        context := w.context.merge inner.context.recorded } answers w' more) :
    Walked e (.visit p d :: rest) w (e.registry.conclude d innerAnswers :: answers) w'
      (effects ++ w.context.mergeEffects inner.context.recorded ++ more)

theorem Walked.append {e : Evaluator} {first second : List Errand} {w w₁ w₂ : Walk}
    {answers more : List Status} {effects after : List Effect}
    (hfirst : Walked e first w answers w₁ effects) (hsecond : Walked e second w₁ more w₂ after) :
    Walked e (first ++ second) w (answers ++ more) w₂ (effects ++ after) := by
  induction hfirst with
  | done w => exact hsecond
  | settled _ ih =>
    rw [List.append_assoc]
    exact .settled (ih hsecond)
  | replayed hit _ ih =>
    rw [List.append_assoc]
    exact .replayed hit (ih hsecond)
  | entered miss tree _ _ ih =>
    rw [List.append_assoc]
    exact .entered miss tree (ih hsecond)

namespace Step

variable {α β : Type} {w w₁ w₂ : Walk}

theorem bind_eq {x : Step α} {f : α → Step β} {a : α} {b : β} {effects more : List Effect}
    (hx : x w = ⟨(a, w₁), effects⟩) (hf : f a w₁ = ⟨(b, w₂), more⟩) :
    (x >>= f) w = ⟨(b, w₂), effects ++ more⟩ := by
  change Traced.bind (x w) (fun r => f r.1 r.2) = _
  rw [hx]
  simp only [Traced.bind]
  rw [hf]

theorem get_bind (f : Walk → Step α) (w : Walk) : (get >>= f) w = f w w := rfl

theorem pure_eq (a : α) (w : Walk) : (pure a : Step α) w = ⟨(a, w), []⟩ := rfl

theorem map_eq {x : Step α} {a : α} {effects : List Effect} (f : α → β)
    (hx : x w = ⟨(a, w₁), effects⟩) :
    (do pure (f (← x)) : Step β) w = ⟨(f a, w₁), effects⟩ := by
  rw [bind_eq hx (pure_eq (f a) w₁), List.append_nil]

theorem lift_eq (x : Traced α) (w : Walk) :
    (StateT.lift x : Step α) w = ⟨(x.value, w), x.effects⟩ := by
  apply Traced.ext
  · rfl
  · exact List.append_nil _

theorem forM_count (ds : List Diagnostic) (m : Metric) (w : Walk) :
    (ds.forM fun _ => count m) w = ⟨((), w), ds.map fun _ => .count m⟩ := by
  induction ds with
  | nil => rfl
  | cons d r ih =>
    have hone : count m w = ⟨((), w), [.count m]⟩ := rfl
    exact bind_eq hone ih

theorem merge_eq (ds : List Diagnostic) (w : Walk) :
    merge ds w =
      ⟨((), { w with context := w.context.merge ds }), w.context.mergeEffects ds⟩ := by
  have hmodify : (modify fun w => { w with context := w.context.merge ds } : Step Unit) w =
      ⟨((), { w with context := w.context.merge ds }), []⟩ := rfl
  rw [merge, get_bind]
  exact bind_eq hmodify (forM_count _ _ _)

theorem inOwnContext_eq {x : Step α} {a : α} {inner : Walk} {effects : List Effect}
    (hx : x { outcomes := w.outcomes } = ⟨(a, inner), effects⟩) :
    inOwnContext x w =
      ⟨((a, inner.context.recorded), { w with outcomes := inner.outcomes }), effects⟩ := by
  change Traced.bind (x { outcomes := w.outcomes })
    (fun r => ⟨((r.1, r.2.context.recorded), { w with outcomes := r.2.outcomes }), []⟩) = _
  rw [hx]
  simp only [Traced.bind, List.append_nil]

end Step

namespace Evaluator

variable (e : Evaluator)

/-- The step answers a visit to the definition at `p` by the rules. -/
def Visits (p : Nat) (d : Definition) (x : Step Status) : Prop :=
  ∀ w, ∃ status w' effects, x w = ⟨(status, w'), effects⟩ ∧
    Walked e [.visit p d] w [status] w' effects

variable {e}

theorem answer_settled (nested : Nat × Definition → Step Status) {definitionId : String} {l : Leaf}
    {status : Status} {diagnostic : Option Diagnostic} {effects : List Effect}
    (h : e.registry.errand e.inventory definitionId l = .settled status diagnostic effects)
    (w : Walk) :
    (e.leaves nested definitionId).answer l w =
      ⟨(status, { w with context := w.context.note diagnostic }), effects⟩ := by
  cases l with
  | childless =>
    cases h
    rfl
  | criterion testRef =>
    simp only [Registry.errand, Registry.criterionErrand] at h
    simp only [Leaves.answer, leaves, criterionStatus]
    split at h
    · rename_i hnone
      rw [hnone]
      cases h
      rfl
    · rename_i t hsome
      rw [hsome]
      have hassess := Step.lift_eq (e.registry.assess e.inventory t) w
      split at h
      · rename_i verdict hvalue
        cases h
        rw [hvalue] at hassess
        exact Step.bind_eq hassess rfl
      · rename_i cause hvalue
        cases h
        rw [hvalue] at hassess
        exact Step.bind_eq hassess rfl
  | extend ref =>
    simp only [Registry.errand, Registry.extendErrand] at h
    simp only [Leaves.answer, leaves, extendStatus]
    split at h
    · cases h
    · rename_i hnone
      rw [hnone]
      cases h
      rfl

theorem answer_visit (nested : Nat × Definition → Step Status) {definitionId : String} {l : Leaf}
    {p : Nat} {d : Definition}
    (h : e.registry.errand e.inventory definitionId l = .visit p d) :
    (e.leaves nested definitionId).answer l = nested (p, d) := by
  obtain ⟨ref, rfl, hfind⟩ := Registry.visit_of_errand h
  simp only [Leaves.answer, leaves, extendStatus]
  rw [hfind]

/-- A pass over leaves gets through their errands, if visits are answered by the rules. -/
theorem walked_mapM_answer {nested : Nat × Definition → Step Status} {definitionId : String}
    (ls : List Leaf)
    (hvisit : ∀ p d, .visit p d ∈ ls.map (e.registry.errand e.inventory definitionId) →
      e.Visits p d (nested (p, d))) (w : Walk) :
    ∃ answers w' effects,
      (ls.mapM (e.leaves nested definitionId).answer) w = ⟨(answers, w'), effects⟩ ∧
        Walked e (ls.map (e.registry.errand e.inventory definitionId)) w answers w' effects := by
  induction ls generalizing w with
  | nil => exact ⟨[], w, [], rfl, .done w⟩
  | cons l r ih =>
    have hrest (p : Nat) (d : Definition)
        (h : .visit p d ∈ r.map (e.registry.errand e.inventory definitionId)) :
        e.Visits p d (nested (p, d)) := hvisit p d (List.mem_cons_of_mem _ h)
    rw [List.mapM_cons, List.map_cons]
    cases hl : e.registry.errand e.inventory definitionId l with
    | settled status diagnostic effects =>
      obtain ⟨answers, w', more, hrun, hwalked⟩ :=
        ih hrest { w with context := w.context.note diagnostic }
      exact ⟨status :: answers, w', effects ++ more,
        Step.bind_eq (answer_settled nested hl w) (Step.map_eq _ hrun), .settled hwalked⟩
    | visit p d =>
      obtain ⟨status, w₁, effects, hfirst, hone⟩ :=
        hvisit p d (by rw [List.map_cons, hl]; exact List.mem_cons_self) w
      obtain ⟨answers, w', more, hrun, hwalked⟩ := ih hrest w₁
      refine ⟨status :: answers, w', effects ++ more, ?_, hone.append hwalked⟩
      rw [answer_visit nested hl]
      exact Step.bind_eq hfirst (Step.map_eq _ hrun)

/-- The status of a definition comes from getting through its plan. -/
theorem walked_treeStatus {nested : Nat × Definition → Step Status} {d : Definition}
    (hvisit : ∀ q d', .visit q d' ∈ e.registry.plan e.inventory d →
      e.Visits q d' (nested (q, d'))) (w : Walk) :
    ∃ answers w' effects,
      e.treeStatus nested d w = ⟨(e.registry.conclude d answers, w'), effects⟩ ∧
        Walked e (e.registry.plan e.inventory d) w answers w' effects := by
  unfold treeStatus Registry.plan Registry.conclude
  unfold Registry.plan at hvisit
  split
  · exact ⟨[.error], { w with context := w.context.note (some (.extendCycle d.id)) },
      [.count .diagnosticRecorded], rfl, .settled (.done _)⟩
  · rename_i hcyclic
    rw [if_neg hcyclic] at hvisit
    obtain ⟨answers, w', effects, hrun, hwalked⟩ := walked_mapM_answer _ hvisit w
    refine ⟨answers, w', effects, ?_, hwalked⟩
    rw [Node.status_eq_mapM_leafList]
    exact Step.map_eq _ hrun

theorem nestedStatus_of_hit (depth : Nat) {held : List Nat} {p : Nat} (d : Definition) {w : Walk}
    {outcome : Outcome} (hfree : held.contains p = false)
    (hit : e.cached? w.outcomes p = some outcome) :
    e.nestedStatus (depth + 1) held (p, d) w =
      ⟨(outcome.status, { w with context := w.context.merge outcome.diagnostics }),
        .count .definitionCached :: w.context.mergeEffects outcome.diagnostics⟩ := by
  have hcount : Step.count .definitionCached w = ⟨((), w), [.count .definitionCached]⟩ := rfl
  have hmerge := Step.map_eq (fun _ => outcome.status) (Step.merge_eq outcome.diagnostics w)
  rw [nestedStatus, hfree]
  simp only [Bool.false_eq_true, if_false]
  rw [Step.get_bind]
  simp only [hit]
  exact Step.bind_eq hcount hmerge

theorem nestedStatus_of_miss {depth : Nat} {held : List Nat} {p : Nat} {d : Definition}
    {w inner : Walk} {status : Status} {effects : List Effect} (hfree : held.contains p = false)
    (miss : e.cached? w.outcomes p = none)
    (hrun : e.treeStatus (e.nestedStatus depth (p :: held)) d { outcomes := w.outcomes } =
      ⟨(status, inner), effects⟩) :
    e.nestedStatus (depth + 1) held (p, d) w =
      ⟨(status, {
          outcomes := inner.outcomes.store p ⟨status, inner.context.recorded⟩
          context := w.context.merge inner.context.recorded }),
        effects ++ w.context.mergeEffects inner.context.recorded⟩ := by
  have htree := Step.inOwnContext_eq hrun
  have hmerge := Step.merge_eq inner.context.recorded { w with outcomes := inner.outcomes }
  have hstore : (do
      modify fun w => { w with outcomes := w.outcomes.store p ⟨status, inner.context.recorded⟩ }
      pure status : Step Status)
      ⟨inner.outcomes, w.context.merge inner.context.recorded⟩ =
      ⟨(status, {
          outcomes := inner.outcomes.store p ⟨status, inner.context.recorded⟩
          context := w.context.merge inner.context.recorded }), []⟩ := rfl
  have hafter := Step.bind_eq (f := fun _ => _) hmerge hstore
  rw [List.append_nil] at hafter
  rw [nestedStatus, hfree]
  simp only [Bool.false_eq_true, if_false]
  rw [Step.get_bind]
  simp only [miss]
  exact Step.bind_eq htree hafter

/-- With the rank of a definition to go, and with those held above it, a visit follows the rules:
neither is the depth exhausted nor is a definition visited that is held. -/
theorem visits_nestedStatus (hr : e.registry.WellFormed) (depth : Nat) (held : List Nat) {p : Nat}
    {d : Definition} (hp : e.registry.definitions[p]? = some d)
    (hdepth : e.registry.rank p < depth)
    (hheld : ∀ q ∈ held, e.registry.rank p < e.registry.rank q) :
    e.Visits p d (e.nestedStatus depth held (p, d)) := by
  induction depth generalizing held p d with
  | zero => exact absurd hdepth (Nat.not_lt_zero _)
  | succ depth ih =>
    intro w
    have hfree : held.contains p = false := by
      rw [Bool.eq_false_iff, ne_eq, List.contains_iff_mem]
      intro hmem
      exact Nat.lt_irrefl _ (hheld p hmem)
    cases hcache : e.cached? w.outcomes p with
    | some outcome =>
      have hwalked : Walked e [.visit p d] w [outcome.status] _ _ := .replayed hcache (.done _)
      rw [List.append_nil] at hwalked
      exact ⟨_, _, _, nestedStatus_of_hit depth d hfree hcache, hwalked⟩
    | none =>
      have hvisit (q : Nat) (d' : Definition)
          (hq : .visit q d' ∈ e.registry.plan e.inventory d) :
          e.Visits q d' (e.nestedStatus depth (p :: held) (q, d')) := by
        have hrank : e.registry.rank q < e.registry.rank p :=
          Registry.rank_lt_of_follows hr ((Registry.follows_iff_visit hp).mpr ⟨d', hq⟩)
        -- One level of depth pays for one step down in rank, and `p` joins those held above.
        apply ih (p :: held) (Registry.getElem?_of_visit hr hq)
        · omega
        · intro x hx
          rcases List.mem_cons.mp hx with rfl | hx
          · exact hrank
          · exact Nat.lt_trans hrank (hheld x hx)
      obtain ⟨answers, inner, effects, hrun, htree⟩ :=
        walked_treeStatus hvisit { outcomes := w.outcomes }
      have hwalked : Walked e [.visit p d] w [e.registry.conclude d answers] _ _ :=
        .entered hcache htree (.done _)
      rw [List.append_nil] at hwalked
      exact ⟨_, _, _, nestedStatus_of_miss hfree hcache hrun, hwalked⟩

end Evaluator
end Oval
