import Mathlib.Algebra.BigOperators.Pi
import Mathlib.Algebra.Order.Group.Multiset
import Mathlib.Tactic.Abel
import Oval.Proofs.Assessment.Effects
import Oval.Proofs.Evaluation.Frame

/-! # Every tree is walked once

With caching the tree of a definition is walked when its outcome is stored, and never again before a
reset.  So the books balance: whatever a sequence of turns spends on tests, leaf by leaf, is due for
the definitions that have outcomes at its end, and a visit that walks no tree is answered from the
store.
-/
namespace Oval

/-- The definition and the test reference of an evaluation that is reported, whatever came out. -/
def Event.assessment? : Event → Option (String × String)
  | testEvaluated definitionId testRef _ => some (definitionId, testRef)
  | testFailed definitionId testRef _ => some (definitionId, testRef)
  | _ => none

def assessments (es : List Effect) : Multiset (String × String) :=
  ((events es).filterMap Event.assessment? : List (String × String))

def increments (family : Family) (es : List Effect) : Nat :=
  ((metrics es).map Metric.family).count family

/-- What turns are charged for: the evaluations of tests as they are reported, their number, and
the number of answers from the store. -/
abbrev Account := Multiset (String × String) × Nat × Nat

namespace Account

def test (definitionId testRef : String) : Account := ({(definitionId, testRef)}, 1, 0)

def hit : Account := (0, 0, 1)

theorem sum_map_hits {α : Type} (l : List α) (n : α → Nat) :
    (l.map fun a => ((0, 0, n a) : Account)).sum = (0, 0, (l.map n).sum) := by
  induction l with
  | nil => rfl
  | cons a l ih =>
    rw [List.map_cons, List.sum_cons, ih]
    rfl

end Account

def account (es : List Effect) : Account :=
  (assessments es, increments .testsEvaluated es, increments .definitionsCached es)

theorem account_append (a b : List Effect) : account (a ++ b) = account a + account b := by
  simp only [account, assessments, increments, events_append, metrics_append,
    List.filterMap_append, List.map_append, List.count_append, ← Multiset.coe_add]
  rfl

theorem account_cons (effect : Effect) (es : List Effect) :
    account (effect :: es) = account [effect] + account es := account_append [effect] es

theorem account_eq_zero {es : List Effect} (h : ∀ effect ∈ es, account [effect] = 0) :
    account es = 0 := by
  induction es with
  | nil => rfl
  | cons effect r ih =>
    obtain ⟨hfirst, hrest⟩ := List.forall_mem_cons.mp h
    rw [account_cons, hfirst, ih hrest, add_zero]

theorem Effect.IsProbe.account_eq_zero {effect : Effect} (h : effect.IsProbe) :
    account [effect] = 0 := by
  cases h <;> rfl

theorem Registry.account_assess (r : Registry) (inv : Inventory) (t : TaggedTest) :
    account (r.assess inv t).effects = (0, 1, 0) := by
  have hprobes : account (r.outcomeOf inv t).run.effects = 0 :=
    account_eq_zero fun effect h => (r.only_isProbe_outcomeOf inv t effect h).account_eq_zero
  rw [effects_assess, account_append, hprobes, zero_add]
  rfl

theorem Context.account_mergeEffects (c : Context) (ds : List Diagnostic) :
    account (c.mergeEffects ds) = 0 := by
  apply account_eq_zero
  intro effect h
  obtain ⟨_, -, rfl⟩ := List.mem_map.mp h
  rfl

theorem Evaluator.account_closing (sink : Option Sink) (f : Finding) :
    account (closing sink f) = 0 := by
  cases sink with
  | none => rfl
  | some sink => cases sink <;> rfl

namespace Errand

/-- A settled errand costs what it emits; a visit is charged as if the store answered it. -/
def cost : Errand → Account
  | settled _ _ effects => account effects
  | visit .. => .hit

end Errand

namespace Registry

variable (r : Registry)

/-- For each criterion leaf that resolves its test, the definition and the reference. -/
def resolvedTests (d : Definition) : List (String × String) :=
  d.criteria.node.leafList.filterMap fun
    | .criterion testRef => if (r.test? testRef).isSome then some (d.id, testRef) else none
    | _ => none

def resolvedExtensions (d : Definition) : List String :=
  d.criteria.node.leafList.filterMap fun
    | .extend definitionRef =>
      if (r.definition? definitionRef).isSome then some definitionRef else none
    | _ => none

def treeCost (d : Definition) : Account :=
  (r.resolvedTests d, (r.resolvedTests d).length, (r.resolvedExtensions d).length)

/-- What is due for a definition.  The tree of one on a cycle is not walked. -/
def due (d : Definition) : Account := if r.isCyclic d.id then 0 else r.treeCost d

theorem cost_errand (inv : Inventory) (definitionId : String) (l : Leaf) :
    (r.errand inv definitionId l).cost =
      match l with
      | .childless => 0
      | .criterion testRef =>
        if (r.test? testRef).isSome then .test definitionId testRef else 0
      | .extend definitionRef => if (r.definition? definitionRef).isSome then .hit else 0 := by
  cases l with
  | childless => rfl
  | criterion testRef =>
    simp only [errand, criterionErrand]
    cases r.test? testRef with
    | none => rfl
    | some t =>
      dsimp only
      split <;> (rw [Errand.cost, account_append, account_assess]; rfl)
  | extend definitionRef =>
    simp only [errand, extendErrand]
    cases r.definition? definitionRef with
    | none => rfl
    | some found => rfl

/-- Whatever the inventory answers, the plan of a definition costs what is due for it. -/
theorem sum_cost_plan (inv : Inventory) (d : Definition) :
    ((r.plan inv d).map Errand.cost).sum = r.due d := by
  unfold plan due
  split
  · rfl
  · rw [List.map_map]
    unfold treeCost resolvedTests resolvedExtensions
    induction d.criteria.node.leafList with
    | nil => rfl
    | cons l ls ih =>
      rw [List.map_cons, List.sum_cons, ih, Function.comp_apply, cost_errand]
      cases l with
      | childless => exact zero_add _
      | criterion testRef =>
        cases h : (r.test? testRef).isSome
        · simp [h]
        · simp [h, Account.test, ← Multiset.cons_coe, ← Multiset.singleton_add, add_comm 1]
      | extend definitionRef =>
        cases h : (r.definition? definitionRef).isSome
        · simp [h]
        · simp [h, Account.hit, add_comm 1]

def held (os : Outcomes) : Finset (Fin r.definitions.length) :=
  Finset.univ.filter fun p => (os.get? p).isSome

def dues (os : Outcomes) : Account := ∑ p ∈ r.held os, r.due (r.definitions.get p)

/-- One answer from the store for each definition that has an outcome. -/
def hits (os : Outcomes) : Account := ∑ _p ∈ r.held os, Account.hit

/-- From `before` to `after` no more and no less was spent than was charged, but for the definitions
stored in between: each of them was charged as a hit, and its tree was walked instead. -/
def Balanced (before : Outcomes) (spent charged : Account) (after : Outcomes) : Prop :=
  spent + r.dues before + r.hits after = charged + r.dues after + r.hits before

variable {r} {os a b c : Outcomes} {p : Nat} {d : Definition}

theorem mem_held {p : Fin r.definitions.length} : p ∈ r.held os ↔ os.Has p := by
  simp [held, Outcomes.Has, Option.isSome_iff_exists]

theorem held_fresh (count : Nat) : r.held (.fresh count) = ∅ := by
  simp [held]

theorem dues_fresh (count : Nat) : r.dues (.fresh count) = 0 := by
  rw [dues, held_fresh, Finset.sum_empty]

theorem hits_fresh (count : Nat) : r.hits (.fresh count) = 0 := by
  rw [hits, held_fresh, Finset.sum_empty]

theorem held_store (hp : p < r.definitions.length) (hsize : os.size = r.definitionCount)
    (o : Outcome) : r.held (os.store p o) = insert ⟨p, hp⟩ (r.held os) := by
  have hlt : p < os.size := hsize ▸ hp
  ext q
  rw [Finset.mem_insert, mem_held, mem_held, Outcomes.Has, Outcomes.get?_store, Fin.ext_iff]
  by_cases hq : (q : Nat) = p <;> simp [hq, hlt, Outcomes.Has]

theorem balanced_self (os : Outcomes) (x : Account) : r.Balanced os x x os := rfl

theorem Balanced.trans {spent charged spent' charged' : Account}
    (hab : r.Balanced a spent charged b) (hbc : r.Balanced b spent' charged' c) :
    r.Balanced a (spent + spent') (charged + charged') c := by
  unfold Balanced at hab hbc ⊢
  apply add_right_cancel (b := r.dues b + r.hits b)
  calc spent + spent' + r.dues a + r.hits c + (r.dues b + r.hits b)
      = (spent + r.dues a + r.hits b) + (spent' + r.dues b + r.hits c) := by abel
    _ = (charged + r.dues b + r.hits a) + (charged' + r.dues c + r.hits b) := by rw [hab, hbc]
    _ = charged + charged' + r.dues c + r.hits a + (r.dues b + r.hits b) := by abel

/-- What was spent as well as charged need not be booked. -/
theorem Balanced.of_add {spent charged x : Account}
    (h : r.Balanced a (spent + x) (x + charged) b) : r.Balanced a spent charged b := by
  unfold Balanced at h ⊢
  apply add_left_cancel (a := x)
  calc x + (spent + r.dues a + r.hits b) = spent + x + r.dues a + r.hits b := by abel
    _ = x + charged + r.dues b + r.hits a := h
    _ = x + (charged + r.dues b + r.hits a) := by abel

/-- A first outcome is paid for by walking the tree, and is charged as a hit. -/
theorem balanced_store (hp : r.definitions[p]? = some d) (hsize : os.size = r.definitionCount)
    (hnew : ¬os.Has p) (o : Outcome) : r.Balanced os (r.due d) .hit (os.store p o) := by
  obtain ⟨hlt, rfl⟩ := List.getElem?_eq_some_iff.mp hp
  have hnotMem : (⟨p, hlt⟩ : Fin r.definitions.length) ∉ r.held os := mt mem_held.mp hnew
  unfold Balanced dues hits
  rw [held_store hlt hsize, Finset.sum_insert hnotMem, Finset.sum_insert hnotMem]
  simp only [List.get_eq_getElem]
  abel

end Registry

theorem Evaluator.not_has_of_miss {e : Evaluator} {os : Outcomes} {p : Nat}
    (hcaching : e.settings.cacheResults = true) (miss : e.cached? os p = none) : ¬os.Has p := by
  rintro ⟨o, ho⟩
  rw [cached?, if_pos hcaching, ho] at miss
  cases miss

namespace Walked

variable {e : Evaluator} {errands : List Errand} {w w' : Walk} {answers : List Status}
  {effects : List Effect}

theorem not_has_self (hr : e.registry.WellFormed) {p : Nat} {d : Definition}
    (hp : e.registry.definitions[p]? = some d)
    (h : Walked e (e.registry.plan e.inventory d) w answers w' effects)
    (hnew : ¬w.outcomes.Has p) : ¬w'.outcomes.Has p := by
  have hback : ¬e.registry.LedTo (e.registry.plan e.inventory d) p := by
    rintro ⟨q, hq, hleads⟩
    have hfollows : e.registry.Follows p q := (Registry.follows_iff_visit hp).mpr hq
    exact Registry.not_transGen_follows_self hr p (.head' hfollows hleads)
  rwa [Outcomes.Has, (h.written hr (Registry.isAt_of_mem_plan hr)).get?_eq p hback]

/-- With caching the books of a walk balance. -/
theorem balanced (hr : e.registry.WellFormed) (hcaching : e.settings.cacheResults = true)
    (h : Walked e errands w answers w' effects) (hat : ∀ x ∈ errands, x.IsAt e.registry)
    (hsize : w.outcomes.size = e.registry.definitionCount) :
    e.registry.Balanced w.outcomes (account effects) (errands.map Errand.cost).sum
      w'.outcomes := by
  induction h with
  | done w => exact Registry.balanced_self _ 0
  | settled _ ih =>
    have hrest := ih (List.forall_mem_cons.mp hat).2 hsize
    rw [account_append, List.map_cons, List.sum_cons]
    exact (Registry.balanced_self _ _).trans hrest
  | @replayed _ _ outcome more _ w _ _ _ _ ih =>
    have hrest := ih (List.forall_mem_cons.mp hat).2 hsize
    have hspent : account (.count .definitionCached ::
        w.context.mergeEffects outcome.diagnostics ++ more) = .hit + account more := by
      rw [account_append, account_cons, Context.account_mergeEffects, add_zero]
      rfl
    rw [hspent, List.map_cons, List.sum_cons]
    exact (Registry.balanced_self _ _).trans hrest
  | @entered p d effects more rest w inner _ innerAnswers _ miss tree _ ihtree ih =>
    obtain ⟨hp, hrestat⟩ := List.forall_mem_cons.mp hat
    have hinnersize := (tree.written hr (Registry.isAt_of_mem_plan hr)).size_eq.trans hsize
    have hnew : ¬w.outcomes.Has p := Evaluator.not_has_of_miss hcaching miss
    have htree := ihtree (Registry.isAt_of_mem_plan hr) hsize
    have hstore := Registry.balanced_store hp hinnersize (tree.not_has_self hr hp hnew)
      ⟨e.registry.conclude d innerAnswers, inner.context.recorded⟩
    -- Storing `p` makes up for what its tree was charged, and leaves the hit to the visit.
    rw [Registry.sum_cost_plan] at htree
    have hvisit := (htree.trans hstore).of_add
    have hrest := ih hrestat ((Outcomes.size_store ..).trans hinnersize)
    rw [account_append, account_append, Context.account_mergeEffects, add_zero, List.map_cons,
      List.sum_cons]
    exact hvisit.trans hrest

end Walked

namespace Session

variable {r : Registry} {α β : Type}

/-- From every store with a place for each definition the books of the session balance, with the
given charge, and it leaves such a store. -/
def Balances (r : Registry) (charged : Account) (x : Evaluator.Session α) : Prop :=
  ∀ os, os.size = r.definitionCount →
    r.Balanced os (account (x os).effects) charged (x os).value.2 ∧
      (x os).value.2.size = r.definitionCount

theorem balances_mapM {f : α → Evaluator.Session β} {charged : α → Account} (l : List α)
    (h : ∀ a ∈ l, Balances r (charged a) (f a)) :
    Balances r (l.map charged).sum (l.mapM f) := by
  induction l with
  | nil => exact fun os hsize => ⟨Registry.balanced_self os 0, hsize⟩
  | cons a l ih =>
    intro os hsize
    obtain ⟨hfirst, hmiddle⟩ := h a List.mem_cons_self os hsize
    obtain ⟨hrest, hafter⟩ := ih (fun b hb => h b (List.mem_cons_of_mem _ hb)) _ hmiddle
    rw [effects_mapM_cons, store_mapM_cons, account_append, List.map_cons, List.sum_cons]
    exact ⟨hfirst.trans hrest, hafter⟩

end Session

namespace Evaluator

variable {e : Evaluator}

theorem balances_evaluateAt (hr : e.registry.WellFormed)
    (hcaching : e.settings.cacheResults = true) (sink : Option Sink) {p : Nat} {d : Definition}
    (hp : e.registry.definitions[p]? = some d) :
    Session.Balances e.registry .hit (e.evaluateAt sink p d) := by
  intro os hsize
  obtain ⟨status, w, effects, hrun, hwalked⟩ := walked_evaluateAt hr sink hp os
  have hat := Registry.isAt_of_mem_singleton hp
  have hbalanced := hwalked.balanced hr hcaching hat hsize
  rw [List.map_singleton, List.sum_singleton] at hbalanced
  rw [hrun, account_append, account_closing, add_zero]
  exact ⟨hbalanced, (hwalked.written hr hat).size_eq.trans hsize⟩

/-- With caching, evaluating a definition that has an outcome asks nothing and changes nothing. -/
theorem evaluateAt_of_has (hr : e.registry.WellFormed) (hcaching : e.settings.cacheResults = true)
    (sink : Option Sink) {p : Nat} {d : Definition} (hp : e.registry.definitions[p]? = some d)
    {os : Outcomes} (h : os.Has p) :
    queries (e.evaluateAt sink p d os).effects = [] ∧ (e.evaluateAt sink p d os).value.2 = os := by
  obtain ⟨status, w, effects, hrun, hwalked⟩ := walked_evaluateAt hr sink hp os
  rw [hrun]
  cases hwalked with
  | replayed _ hdone =>
    cases hdone
    refine ⟨?_, rfl⟩
    rw [List.append_nil, queries_append, queries_closing, List.append_nil]
    exact Context.queries_mergeEffects _ _
  | entered miss => exact absurd h (not_has_of_miss hcaching miss)

end Evaluator

namespace Session

variable {α β : Type} {os : Outcomes}

/-- From the store `os` the session asks nothing, and leaves it as it is. -/
def Quiet (os : Outcomes) (x : Evaluator.Session α) : Prop :=
  queries (x os).effects = [] ∧ (x os).value.2 = os

theorem quiet_mapM {f : α → Evaluator.Session β} (l : List α) (h : ∀ a ∈ l, Quiet os (f a)) :
    Quiet os (l.mapM f) := by
  induction l with
  | nil => exact ⟨rfl, rfl⟩
  | cons a l ih =>
    obtain ⟨hasks, hkeeps⟩ := h a List.mem_cons_self
    rw [Quiet, effects_mapM_cons, store_mapM_cons, hkeeps, queries_append, hasks]
    exact ih fun b hb => h b (List.mem_cons_of_mem _ hb)

end Session

namespace Turn

variable {r : Registry} {t : Turn r}

theorem balances_run (hr : r.WellFormed) (hcaching : t.settings.cacheResults = true)
    (hreset : t.request ≠ .reset) :
    Session.Balances r (0, 0, t.subjects.length) t.run := by
  have hcharged : (0, 0, t.subjects.length) = (t.subjects.map fun _ => Account.hit).sum := by
    simp [Account.hit]
  rw [run_eq_mapM hreset, hcharged]
  apply Session.balances_mapM
  intro s hs
  exact Evaluator.balances_evaluateAt (e := t.evaluator) hr hcaching t.sink
    (getElem?_of_mem_subjects hr hs)

theorem quiet_run (hr : r.WellFormed) (hcaching : t.settings.cacheResults = true)
    (hreset : t.request ≠ .reset) {os : Outcomes} (h : ∀ s ∈ t.subjects, os.Has s.1) :
    Session.Quiet os t.run := by
  rw [run_eq_mapM hreset]
  apply Session.quiet_mapM
  intro s hs
  exact Evaluator.evaluateAt_of_has (e := t.evaluator) hr hcaching t.sink
    (getElem?_of_mem_subjects hr hs) (h s hs)

end Turn

namespace Registry

variable (r : Registry)

/-- The definitions that have an outcome, less those on a cycle: those whose tree was walked. -/
def walked (os : Outcomes) : Finset (Fin r.definitions.length) :=
  (r.held os).filter fun p => r.isCyclic (r.definitions.get p).id = false

theorem dues_eq (os : Outcomes) :
    r.dues os = (∑ p ∈ r.walked os,
        (r.resolvedTests (r.definitions.get p) : Multiset (String × String)),
      ∑ p ∈ r.walked os, (r.resolvedTests (r.definitions.get p)).length,
      ∑ p ∈ r.walked os, (r.resolvedExtensions (r.definitions.get p)).length) := by
  have hdue (p : Fin r.definitions.length) : r.due (r.definitions.get p) =
      if r.isCyclic (r.definitions.get p).id = false then r.treeCost (r.definitions.get p)
      else 0 := by
    unfold due
    cases r.isCyclic (r.definitions.get p).id <;> rfl
  rw [prod_mk_sum, prod_mk_sum, walked, Finset.sum_filter]
  exact Finset.sum_congr rfl fun p _ => hdue p

theorem hits_eq (os : Outcomes) : r.hits os = (0, 0, (r.held os).card) := by
  simp [hits, Account.hit]

end Registry

namespace Turn

/-- With caching and without a reset, whatever is evaluated and however often: the evaluations of
tests are those of the definitions that have an outcome at the end and are not cyclic, one for each
criterion leaf that resolves its test.  Of the visits, requested or by an extend leaf that resolves
its definition, one for each definition that has an outcome was not answered from the store.  A turn
about definitions that have outcomes asks nothing and changes nothing. -/
theorem trees_walked_once (doc : Document) (turns : List (Turn (.ofDocument doc)))
    (hcaching : ∀ t ∈ turns, t.settings.cacheResults = true)
    (hreset : ∀ t ∈ turns, t.request ≠ .reset) :
    let r := Registry.ofDocument doc
    let effects := (runAll turns (.fresh r.definitionCount)).effects
    let walked := r.walked (reached turns)
    assessments effects = ∑ p ∈ walked, (r.resolvedTests r.definitions[p] : Multiset _) ∧
    increments .testsEvaluated effects =
      ∑ p ∈ walked, (r.resolvedTests r.definitions[p]).length ∧
    increments .definitionsCached effects + (r.held (reached turns)).card =
      (turns.map fun t => t.subjects.length).sum +
        ∑ p ∈ walked, (r.resolvedExtensions r.definitions[p]).length ∧
    ∀ (t : Turn r) (os : Outcomes), t.settings.cacheResults = true → t.request ≠ .reset →
      (∀ s ∈ t.subjects, os.Has s.1) →
      queries (t.run os).effects = [] ∧ (t.run os).value.2 = os := by
  intro r effects walked
  have hr : r.WellFormed := Registry.wellFormed_ofDocument doc
  have hrun : Session.Balances r (0, 0, (turns.map fun t => t.subjects.length).sum)
      (runAll turns) := by
    rw [← Account.sum_map_hits]
    apply Session.balances_mapM
    intro t ht
    exact balances_run hr (hcaching t ht) (hreset t ht)
  obtain ⟨hbalanced, -⟩ := hrun (.fresh r.definitionCount) (Outcomes.size_fresh _)
  rw [Registry.Balanced, Registry.dues_fresh, Registry.hits_fresh, add_zero, add_zero] at hbalanced
  have hbooks : account effects + r.hits (reached turns) =
      (0, 0, (turns.map fun t => t.subjects.length).sum) + r.dues (reached turns) := hbalanced
  rw [Registry.dues_eq, Registry.hits_eq] at hbooks
  simp only [account, Prod.mk_add_mk, Prod.mk.injEq, add_zero, zero_add] at hbooks
  obtain ⟨hassessments, htests, hvisits⟩ := hbooks
  refine ⟨hassessments, htests, hvisits, ?_⟩
  intro t os htcaching htreset h
  exact quiet_run hr htcaching htreset h

/-- A diamond over "shared", which two criteria test twice, and a cycle beside it.  Of eleven visits
five walk a tree, and three tests are evaluated. -/
theorem trees_walked_once_diamond :
    let shared : Definition :=
      { id := "shared"
        criteria := { children :=
          [.criterion "t" false none, .criterion "missing" false none, .criterion "t" true none] } }
    let top : Definition :=
      { id := "top"
        criteria := { children :=
          [.extend "left" false none, .criterion "t" false none, .extend "right" false none] } }
    let loop : Definition :=
      { id := "loop"
        criteria := { children := [.criterion "t" false none, .extend "loop" false none] } }
    let doc : Document :=
      { definitions :=
          [top, .extending "left" ["shared"], .extending "right" ["shared"], shared, loop]
        tests := { rpminfo := [{ id := "t", objectRef := "o" }] }
        objects := { rpminfo := [⟨"o", "bash"⟩] } }
    let r := Registry.ofDocument doc
    let inv : Inventory := ⟨fun _ _ => .error "unavailable", fun _ => .ok none⟩
    let turns : List (Turn r) := [
      ⟨inv, {}, none, .identifier "shared"⟩, ⟨inv, {}, none, .everything⟩,
      ⟨inv, {}, none, .definition ⟨0, by decide⟩⟩]
    let effects := (runAll turns (.fresh r.definitionCount)).effects
    (∀ t ∈ turns, t.settings.cacheResults = true) ∧ (∀ t ∈ turns, t.request ≠ .reset) ∧
      assessments effects = ({("shared", "t"), ("shared", "t"), ("top", "t")} : Multiset _) ∧
      increments .testsEvaluated effects = 3 ∧ increments .definitionsCached effects = 6 ∧
      ∀ (t : Turn r), t.settings.cacheResults = true → t.request ≠ .reset →
        (∀ s ∈ t.subjects, (reached turns).Has s.1) →
        queries (t.run (reached turns)).effects = [] ∧
          (t.run (reached turns)).value.2 = reached turns := by
  intro shared top loop doc r inv turns effects
  have hcaching : ∀ t ∈ turns, t.settings.cacheResults = true := by
    simp [turns]
  have hreset : ∀ t ∈ turns, t.request ≠ .reset := by
    simp [turns]
  obtain ⟨hassessments, htests, hvisits, hquiet⟩ := trees_walked_once doc turns hcaching hreset
  refine ⟨hcaching, hreset, hassessments.trans ?_, htests.trans ?_, ?_, fun t => hquiet t _⟩
  · dsimp only [turns, r, inv, doc, top, shared, loop]
    decide +kernel
  · dsimp only [turns, r, inv, doc, top, shared, loop]
    decide +kernel
  · have hheld : (r.held (reached turns)).card = 5 := by
      dsimp only [turns, r, inv, doc, top, shared, loop]
      decide +kernel
    have hextensions : ∑ p ∈ r.walked (reached turns),
        (r.resolvedExtensions r.definitions[p]).length = 4 := by
      dsimp only [turns, r, inv, doc, top, shared, loop]
      decide +kernel
    have hrequested : (turns.map fun t => t.subjects.length).sum = 7 := by
      dsimp only [turns, r, inv, doc, top, shared, loop]
      decide +kernel
    rw [hheld, hextensions, hrequested] at hvisits
    exact Nat.add_right_cancel hvisits

end Turn
end Oval
