import Oval.Proofs.Evaluation.Walk

/-! # Outcomes without a store

The outcome of a definition is a function of the document and the inventory: it satisfies one
equation, in which each visit stands for the outcome of the definition visited.  A walk through any
store whose answers agree with that function agrees with it too, and writes nothing else.
-/
namespace Oval

namespace Errand

/-- The answer to the errand, if visits are answered by the given outcomes. -/
def statusFrom (answer : Definition → Outcome) : Errand → Status
  | settled status _ _ => status
  | visit _ d => (answer d).status

def addTo (answer : Definition → Outcome) (c : Context) : Errand → Context
  | settled _ diagnostic _ => c.note diagnostic
  | visit _ d => c.merge (answer d).diagnostics

end Errand

namespace Registry

variable (r : Registry) (inv : Inventory)

def outcomeFrom (answer : Definition → Outcome) (d : Definition) : Outcome where
  status := r.conclude d ((r.plan inv d).map (Errand.statusFrom answer))
  diagnostics := ((r.plan inv d).foldl (Errand.addTo answer) {}).recorded

/-- The outcome of a definition, visits going at most so deep. -/
def outcomeWithin : (depth : Nat) → Definition → Outcome
  | 0, _ => ⟨.error, []⟩
  | depth + 1, d => r.outcomeFrom inv (outcomeWithin depth) d

def outcome : Definition → Outcome := r.outcomeWithin inv r.definitionCount

variable {r inv}

theorem outcomeFrom_congr {answer answer' : Definition → Outcome} {d : Definition}
    (h : ∀ q d', .visit q d' ∈ r.plan inv d → answer d' = answer' d') :
    r.outcomeFrom inv answer d = r.outcomeFrom inv answer' d := by
  have hstatus (x : Errand) (hx : x ∈ r.plan inv d) :
      x.statusFrom answer = x.statusFrom answer' := by
    cases x with
    | settled => rfl
    | visit q d' => exact congrArg Outcome.status (h q d' hx)
  have hadd (c : Context) (x : Errand) (hx : x ∈ r.plan inv d) :
      x.addTo answer c = x.addTo answer' c := by
    cases x with
    | settled => rfl
    | visit q d' => exact congrArg (fun o : Outcome => c.merge o.diagnostics) (h q d' hx)
  have hfold : (r.plan inv d).foldl (Errand.addTo answer) {} =
      (r.plan inv d).foldl (Errand.addTo answer') {} := List.foldl_ext _ _ _ hadd
  rw [outcomeFrom, outcomeFrom, hfold, List.map_congr_left hstatus]

/-- A property of definitions holds of all if it passes from the definitions visited to the one
that visits them. -/
theorem visit_induction (hr : r.WellFormed) (inv : Inventory) {motive : Nat → Definition → Prop}
    (step : ∀ p d, r.definitions[p]? = some d →
      (∀ q d', .visit q d' ∈ r.plan inv d → motive q d') → motive p d)
    {p : Nat} {d : Definition} (hp : r.definitions[p]? = some d) : motive p d := by
  induction hrank : r.rank p using Nat.strong_induction_on generalizing p d with
  | _ n ih =>
    apply step p d hp
    intro q d' hvisit
    have hlt := rank_lt_of_follows hr ((follows_iff_visit hp).mpr ⟨d', hvisit⟩)
    exact ih (r.rank q) (hrank ▸ hlt) (getElem?_of_visit hr hvisit) rfl

theorem outcomeWithin_eq_of_rank_lt (hr : r.WellFormed) {p : Nat} {d : Definition}
    (hp : r.definitions[p]? = some d) {k l : Nat} (hk : r.rank p < k) (hl : r.rank p < l) :
    r.outcomeWithin inv k d = r.outcomeWithin inv l d := by
  apply eq_of_rank_lt hr (f := r.outcomeWithin inv) _ hp hk hl
  intro k l p d hp h
  apply outcomeFrom_congr
  intro q d' hvisit
  exact h q d' ((follows_iff_visit hp).mpr ⟨d', hvisit⟩) (getElem?_of_visit hr hvisit)

theorem outcome_eq (hr : r.WellFormed) {p : Nat} {d : Definition}
    (hp : r.definitions[p]? = some d) :
    r.outcome inv d = r.outcomeFrom inv (r.outcome inv) d := by
  have hlt : r.rank p < r.definitionCount :=
    rank_lt_definitionCount hr (lt_definitionCount_of_getElem? hp)
  exact outcomeWithin_eq_of_rank_lt hr hp hlt (Nat.lt_succ_of_lt hlt)

/-- The store after it was only written with outcomes of definitions at their positions. -/
def Overwritten (r : Registry) (inv : Inventory) (before after : Outcomes) : Prop :=
  ∀ p, after.get? p = before.get? p ∨
    ∃ d, r.definitions[p]? = some d ∧ after.get? p = some (r.outcome inv d)

theorem Overwritten.refl (os : Outcomes) : Overwritten r inv os os := fun _ => .inl rfl

theorem Overwritten.trans {a b c : Outcomes} (hab : Overwritten r inv a b)
    (hbc : Overwritten r inv b c) : Overwritten r inv a c := by
  intro p
  rcases hbc p with h | h
  · rw [h]
    exact hab p
  · exact .inr h

theorem overwritten_store (os : Outcomes) {p : Nat} {d : Definition}
    (hp : r.definitions[p]? = some d) :
    Overwritten r inv os (os.store p (r.outcome inv d)) := by
  intro q
  rw [Outcomes.get?_store]
  split
  · rename_i h
    exact .inr ⟨d, h.1 ▸ hp, rfl⟩
  · exact .inl rfl

/-- Every stored outcome is the outcome of the definition at its position. -/
def Consistent (r : Registry) (inv : Inventory) : Outcomes → Prop :=
  r.Stored fun d o => o = r.outcome inv d

theorem consistent_fresh (count : Nat) : Consistent r inv (.fresh count) := stored_fresh count

theorem Consistent.overwritten {before after : Outcomes} (h : Consistent r inv before)
    (hwritten : Overwritten r inv before after) : Consistent r inv after := by
  intro p d o hp ho
  rcases hwritten p with hkept | ⟨d', hp', hnew⟩
  · exact h p d o hp (hkept ▸ ho)
  · obtain rfl : d' = d := Option.some.inj (hp'.symm.trans hp)
    exact Option.some.inj (ho.symm.trans hnew)

end Registry

namespace Evaluator

/-- What the store would answer for a definition is its outcome. -/
def Trusts (e : Evaluator) (os : Outcomes) : Prop :=
  ∀ p d o, e.registry.definitions[p]? = some d → e.cached? os p = some o →
    o = e.registry.outcome e.inventory d

theorem trusts_of_consistent {e : Evaluator} {os : Outcomes}
    (h : e.registry.Consistent e.inventory os) : e.Trusts os := by
  intro p d o hp hcached
  exact h p d o hp (get?_of_cached? hcached)

theorem Trusts.overwritten {e : Evaluator} {before after : Outcomes} (h : e.Trusts before)
    (hwritten : e.registry.Overwritten e.inventory before after) : e.Trusts after := by
  intro p d o hp hcached
  unfold cached? at hcached
  split at hcached
  · rename_i hcaching
    rcases hwritten p with hkept | ⟨d', hp', hnew⟩
    · apply h p d o hp
      rw [cached?, if_pos hcaching, ← hkept]
      exact hcached
    · obtain rfl : d' = d := Option.some.inj (hp'.symm.trans hp)
      exact Option.some.inj (hcached.symm.trans hnew)
  · cases hcached

end Evaluator

/-- Through a store that can be trusted, a walk answers and records what the outcomes say. -/
theorem Walked.eq_outcomes {e : Evaluator} (hr : e.registry.WellFormed) {errands : List Errand}
    {w w' : Walk} {answers : List Status} {effects : List Effect}
    (h : Walked e errands w answers w' effects)
    (hat : ∀ x ∈ errands, x.IsAt e.registry)
    (htrust : e.Trusts w.outcomes) :
    answers = errands.map (Errand.statusFrom (e.registry.outcome e.inventory)) ∧
      w'.context = errands.foldl (Errand.addTo (e.registry.outcome e.inventory)) w.context ∧
      e.registry.Overwritten e.inventory w.outcomes w'.outcomes := by
  induction h with
  | done w => exact ⟨rfl, rfl, .refl _⟩
  | settled _ ih =>
    obtain ⟨-, hrest⟩ := List.forall_mem_cons.mp hat
    obtain ⟨hanswers, hcontext, hwritten⟩ := ih hrest htrust
    refine ⟨?_, hcontext, hwritten⟩
    rw [hanswers]
    rfl
  | @replayed p d outcome _ _ _ _ _ hit _ ih =>
    obtain ⟨hp, hrest⟩ := List.forall_mem_cons.mp hat
    obtain ⟨hanswers, hcontext, hwritten⟩ := ih hrest htrust
    have houtcome := htrust p d outcome hp hit
    subst houtcome
    refine ⟨?_, hcontext, hwritten⟩
    rw [hanswers]
    rfl
  | @entered p d _ _ _ w inner _ innerAnswers _ miss _ _ ihtree ih =>
    obtain ⟨hp, hrest⟩ := List.forall_mem_cons.mp hat
    obtain ⟨hinner, hrecorded, hfirst⟩ := ihtree (Registry.isAt_of_mem_plan hr) htrust
    have houtcome : (⟨e.registry.conclude d innerAnswers, inner.context.recorded⟩ : Outcome) =
        e.registry.outcome e.inventory d := by
      rw [Registry.outcome_eq hr hp, Registry.outcomeFrom, ← hinner, ← hrecorded]
    have hstored := hfirst.trans (Registry.overwritten_store inner.outcomes hp)
    rw [houtcome] at ih
    obtain ⟨hanswers, hcontext, hafter⟩ := ih hrest (htrust.overwritten hstored)
    refine ⟨?_, ?_, hstored.trans hafter⟩
    · rw [hanswers, List.map_cons, Errand.statusFrom, ← houtcome]
    · rw [hcontext, List.foldl_cons, Errand.addTo, ← houtcome]

theorem Walked.eq_outcome {e : Evaluator} (hr : e.registry.WellFormed) {p : Nat} {d : Definition}
    {os : Outcomes} {status : Status} {w : Walk} {effects : List Effect}
    (h : Walked e [.visit p d] { outcomes := os } [status] w effects)
    (hp : e.registry.definitions[p]? = some d) (htrust : e.Trusts os) :
    (⟨status, w.context.recorded⟩ : Outcome) = e.registry.outcome e.inventory d ∧
      e.registry.Overwritten e.inventory os w.outcomes := by
  have hat := Registry.isAt_of_mem_singleton hp
  obtain ⟨hanswers, hcontext, hwritten⟩ := h.eq_outcomes hr hat htrust
  have hstatus : status = (e.registry.outcome e.inventory d).status :=
    List.head_eq_of_cons_eq hanswers
  have hrecorded : w.context.recorded = (e.registry.outcome e.inventory d).diagnostics := by
    rw [hcontext]
    exact Context.recorded_merge_empty _
  refine ⟨?_, hwritten⟩
  rw [hstatus, hrecorded]

end Oval
