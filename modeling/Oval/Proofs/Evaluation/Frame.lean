import Oval.Proofs.Evaluation.Explanation

/-! # What an evaluation does to the store

An evaluation writes at the definitions that its own one leads to and nowhere else, and leaves an
outcome for each of them; with caching it writes only where nothing was stored.  So every store
that turns lead to, whichever inventories were asked, is closed: with a definition it holds those
that the definition follows.
-/
namespace Oval

namespace Outcomes

def Has (os : Outcomes) (p : Nat) : Prop := ∃ o, os.get? p = some o

variable {os : Outcomes} {p q : Nat} {o : Outcome}

theorem get?_store_self (hp : p < os.size) : (os.store p o).get? p = some o := by
  rw [get?_store, if_pos ⟨rfl, hp⟩]

theorem get?_store_of_ne (h : q ≠ p) : (os.store p o).get? q = os.get? q := by
  rw [get?_store, if_neg (fun hboth => h hboth.1)]

theorem Has.store (h : os.Has q) (p : Nat) (o : Outcome) : (os.store p o).Has q := by
  rw [Has, get?_store]
  split
  · exact ⟨o, rfl⟩
  · exact h

/-- From `before` to `after` nothing was forgotten, and only positions with `P` were written. -/
structure Written (P : Nat → Prop) (before after : Outcomes) : Prop where
  size_eq : after.size = before.size
  has : ∀ q, before.Has q → after.Has q
  get?_eq : ∀ q, ¬P q → after.get? q = before.get? q

namespace Written

variable {P P' : Nat → Prop} {a b c : Outcomes}

theorem refl (P : Nat → Prop) (os : Outcomes) : Written P os os where
  size_eq := rfl
  has _ h := h
  get?_eq _ _ := rfl

theorem trans (hab : Written P a b) (hbc : Written P b c) : Written P a c where
  size_eq := hbc.size_eq.trans hab.size_eq
  has q h := hbc.has q (hab.has q h)
  get?_eq q h := (hbc.get?_eq q h).trans (hab.get?_eq q h)

theorem mono (h : Written P a b) (hP : ∀ q, P q → P' q) : Written P' a b where
  size_eq := h.size_eq
  has := h.has
  get?_eq q hq := h.get?_eq q (mt (hP q) hq)

end Written

theorem written_store {P : Nat → Prop} (hp : P p) (os : Outcomes) (o : Outcome) :
    Written P os (os.store p o) where
  size_eq := size_store os p o
  has q h := h.store p o
  get?_eq q hq := by
    apply get?_store_of_ne
    rintro rfl
    exact hq hp

end Outcomes

namespace Registry

variable {r : Registry} {inv : Inventory} {os : Outcomes}

/-- One of the visits leads to the definition at `q`. -/
def LedTo (r : Registry) (errands : List Errand) (q : Nat) : Prop :=
  ∃ p, Visited errands p ∧ r.Leads p q

theorem LedTo.cons {errands : List Errand} {q : Nat} (h : r.LedTo errands q) (x : Errand) :
    r.LedTo (x :: errands) q := by
  obtain ⟨p, ⟨d, hd⟩, hleads⟩ := h
  exact ⟨p, ⟨d, List.mem_cons_of_mem x hd⟩, hleads⟩

/-- With a definition the store has those that the definition follows. -/
def Closed (r : Registry) (os : Outcomes) : Prop := ∀ p q, r.Follows p q → os.Has p → os.Has q

theorem Closed.has_of_leads (h : r.Closed os) {p q : Nat} (hleads : r.Leads p q) (hp : os.Has p) :
    os.Has q := by
  induction hleads with
  | refl => exact hp
  | tail _ hfollows ih => exact h _ _ hfollows ih

theorem Closed.store (h : r.Closed os) {p : Nat} (o : Outcome)
    (hp : ∀ q, r.Follows p q → os.Has q) : r.Closed (os.store p o) := by
  intro x q hfollows hx
  by_cases hxp : x = p
  · exact (hp q (hxp ▸ hfollows)).store p o
  · rw [Outcomes.Has, Outcomes.get?_store_of_ne hxp] at hx
    exact (h x q hfollows hx).store p o

theorem conclude_ne_notEvaluated {d : Definition} {answers : List Status}
    (h : .notEvaluated ∉ answers) : r.conclude d answers ≠ .notEvaluated := by
  unfold conclude
  split
  · decide
  · exact d.criteria.node.verdict_ne_notEvaluated h

/-- What turns keep true of the store: it has a place for each definition, no outcome in it lacks
an evaluation, and it is closed. -/
structure Coherent (r : Registry) (os : Outcomes) : Prop where
  size_eq : os.size = r.definitionCount
  evaluated : ∀ p o, os.get? p = some o → o.status ≠ .notEvaluated
  closed : r.Closed os

theorem coherent_fresh (r : Registry) : r.Coherent (.fresh r.definitionCount) where
  size_eq := Outcomes.size_fresh _
  evaluated p o h := by
    rw [Outcomes.get?_fresh] at h
    cases h
  closed p q _ h := by
    obtain ⟨o, h⟩ := h
    rw [Outcomes.get?_fresh] at h
    cases h

end Registry

open Registry (LedTo Visited)

namespace Walked

variable {e : Evaluator} {errands : List Errand} {w w' : Walk} {answers : List Status}
  {effects : List Effect}

theorem written (hr : e.registry.WellFormed) (h : Walked e errands w answers w' effects)
    (hat : ∀ x ∈ errands, x.IsAt e.registry) :
    Outcomes.Written (e.registry.LedTo errands) w.outcomes w'.outcomes := by
  induction h with
  | done w => exact .refl _ _
  | settled _ ih => exact (ih (List.forall_mem_cons.mp hat).2).mono fun q hq => hq.cons _
  | replayed _ _ ih => exact (ih (List.forall_mem_cons.mp hat).2).mono fun q hq => hq.cons _
  | @entered p d _ _ rest w inner _ innerAnswers _ _ _ _ ihtree ih =>
    obtain ⟨hp, hrest⟩ := List.forall_mem_cons.mp hat
    have hself : Visited (.visit p d :: rest) p := ⟨d, List.mem_cons_self⟩
    have htree : Outcomes.Written (e.registry.LedTo (.visit p d :: rest)) w.outcomes
        inner.outcomes := by
      apply (ihtree (Registry.isAt_of_mem_plan hr)).mono
      rintro q ⟨x, hx, hleads⟩
      exact ⟨p, hself, .head ((Registry.follows_iff_visit hp).mpr hx) hleads⟩
    have hstore := Outcomes.written_store (P := e.registry.LedTo (.visit p d :: rest))
      ⟨p, hself, .refl⟩ inner.outcomes
      ⟨e.registry.conclude d innerAnswers, inner.context.recorded⟩
    exact (htree.trans hstore).trans ((ih hrest).mono fun q hq => hq.cons _)

/-- A walk keeps the store closed, and afterwards the store has whatever was visited. -/
theorem closed (hr : e.registry.WellFormed) (h : Walked e errands w answers w' effects)
    (hat : ∀ x ∈ errands, x.IsAt e.registry)
    (hsize : w.outcomes.size = e.registry.definitionCount)
    (hclosed : e.registry.Closed w.outcomes) :
    e.registry.Closed w'.outcomes ∧ ∀ q, Visited errands q → w'.outcomes.Has q := by
  induction h with
  | done w =>
    refine ⟨hclosed, ?_⟩
    rintro q ⟨d, hd⟩
    exact absurd hd List.not_mem_nil
  | settled _ ih =>
    obtain ⟨hafter, hvisited⟩ := ih (List.forall_mem_cons.mp hat).2 hsize hclosed
    refine ⟨hafter, ?_⟩
    intro q hq
    rcases Registry.visited_cons_iff.mp hq with ⟨_, hself⟩ | hq
    · cases hself
    · exact hvisited q hq
  | @replayed p _ outcome _ _ w _ _ hit hrest ih =>
    obtain ⟨hafter, hvisited⟩ := ih (List.forall_mem_cons.mp hat).2 hsize hclosed
    refine ⟨hafter, ?_⟩
    intro q hq
    rcases Registry.visited_cons_iff.mp hq with ⟨_, hself⟩ | hq
    · cases hself
      have hbefore : w.outcomes.Has p := ⟨outcome, Evaluator.get?_of_cached? hit⟩
      exact (hrest.written hr (List.forall_mem_cons.mp hat).2).has p hbefore
    · exact hvisited q hq
  | @entered p d _ _ _ w inner _ innerAnswers _ _ tree hrest ihtree ih =>
    obtain ⟨hp, hrestat⟩ := List.forall_mem_cons.mp hat
    obtain ⟨hinner, hplan⟩ := ihtree (Registry.isAt_of_mem_plan hr) hsize hclosed
    have hinnersize := (tree.written hr (Registry.isAt_of_mem_plan hr)).size_eq.trans hsize
    have hplt : p < inner.outcomes.size := by
      rw [hinnersize]
      exact Registry.lt_definitionCount_of_getElem? hp
    have hstored := hinner.store ⟨e.registry.conclude d innerAnswers, inner.context.recorded⟩
      fun q hq => hplan q ((Registry.follows_iff_visit hp).mp hq)
    obtain ⟨hafter, hvisited⟩ := ih hrestat ((Outcomes.size_store ..).trans hinnersize) hstored
    refine ⟨hafter, ?_⟩
    intro q hq
    rcases Registry.visited_cons_iff.mp hq with ⟨_, hself⟩ | hq
    · cases hself
      exact (hrest.written hr hrestat).has p ⟨_, Outcomes.get?_store_self hplt⟩
    · exact hvisited q hq

theorem get?_of_caching (hcaching : e.settings.cacheResults = true)
    (h : Walked e errands w answers w' effects) {q : Nat} {o : Outcome}
    (hq : w.outcomes.get? q = some o) : w'.outcomes.get? q = some o := by
  induction h with
  | done => exact hq
  | settled _ ih => exact ih hq
  | replayed _ _ ih => exact ih hq
  | @entered p _ _ _ _ w _ _ _ _ miss _ _ ihtree ih =>
    have hne : q ≠ p := by
      rintro rfl
      rw [Evaluator.cached?, if_pos hcaching, hq] at miss
      cases miss
    apply ih
    rw [Outcomes.get?_store_of_ne hne]
    exact ihtree hq

theorem evaluated (h : Walked e errands w answers w' effects)
    (hsettled : ∀ status diagnostic effects, .settled status diagnostic effects ∈ errands →
      status ≠ .notEvaluated)
    (hstore : ∀ p o, w.outcomes.get? p = some o → o.status ≠ .notEvaluated) :
    (∀ p o, w'.outcomes.get? p = some o → o.status ≠ .notEvaluated) ∧
      .notEvaluated ∉ answers := by
  induction h with
  | done => exact ⟨hstore, List.not_mem_nil⟩
  | settled _ ih =>
    obtain ⟨hafter, hanswers⟩ :=
      ih (fun _ _ _ hx => hsettled _ _ _ (List.mem_cons_of_mem _ hx)) hstore
    refine ⟨hafter, List.not_mem_cons_of_ne_of_not_mem ?_ hanswers⟩
    exact (hsettled _ _ _ List.mem_cons_self).symm
  | replayed hit _ ih =>
    obtain ⟨hafter, hanswers⟩ :=
      ih (fun _ _ _ hx => hsettled _ _ _ (List.mem_cons_of_mem _ hx)) hstore
    refine ⟨hafter, List.not_mem_cons_of_ne_of_not_mem ?_ hanswers⟩
    exact (hstore _ _ (Evaluator.get?_of_cached? hit)).symm
  | @entered p d _ _ _ _ inner _ innerAnswers _ _ _ _ ihtree ih =>
    obtain ⟨hinner, hinnerAnswers⟩ :=
      ihtree (fun _ _ _ hx => (Registry.explained_of_mem_plan hx).evaluated) hstore
    have hstatus : e.registry.conclude d innerAnswers ≠ .notEvaluated :=
      Registry.conclude_ne_notEvaluated hinnerAnswers
    obtain ⟨hafter, hanswers⟩ :=
      ih (fun _ _ _ hx => hsettled _ _ _ (List.mem_cons_of_mem _ hx)) (by
        intro q o hq
        rw [Outcomes.get?_store] at hq
        split at hq
        · cases hq
          exact hstatus
        · exact hinner q o hq)
    exact ⟨hafter, List.not_mem_cons_of_ne_of_not_mem hstatus.symm hanswers⟩

theorem get?_of_visit {p : Nat} {d : Definition} {os : Outcomes} {status : Status} {w : Walk}
    (hr : e.registry.WellFormed) (hp : e.registry.definitions[p]? = some d)
    (hsize : os.size = e.registry.definitionCount)
    (h : Walked e [.visit p d] { outcomes := os } [status] w effects) :
    w.outcomes.get? p = some ⟨status, w.context.recorded⟩ := by
  cases h with
  | replayed hit hdone =>
    cases hdone
    rw [Context.recorded_merge_empty]
    exact Evaluator.get?_of_cached? hit
  | @entered _ _ _ _ _ _ inner _ _ _ miss tree hdone =>
    cases hdone
    rw [Context.recorded_merge_empty]
    apply Outcomes.get?_store_self
    rw [(tree.written hr (Registry.isAt_of_mem_plan hr)).size_eq, hsize]
    exact Registry.lt_definitionCount_of_getElem? hp

end Walked

namespace Evaluator

/-- What evaluating the definition at `p` does: the finding and the store agree on the status, the
definitions that `p` leads to have outcomes afterwards, and the others are left alone.  With caching
so are all outcomes that were there. -/
structure Frames (e : Evaluator) (p : Nat) (before : Outcomes) (f : Finding) (after : Outcomes) :
    Prop where
  status_eq : f.status = after.status p
  has : ∀ q, e.registry.Leads p q → after.Has q
  get?_eq : ∀ q, ¬e.registry.Leads p q → after.get? q = before.get? q
  kept : e.settings.cacheResults = true →
    ∀ q o, before.get? q = some o → after.get? q = some o

variable {e : Evaluator}

theorem frames_evaluateAt (hr : e.registry.WellFormed) (sink : Option Sink) {p : Nat}
    {d : Definition} (hp : e.registry.definitions[p]? = some d) {os : Outcomes}
    (hos : e.registry.Coherent os) :
    e.Frames p os (e.evaluateAt sink p d os).value.1 (e.evaluateAt sink p d os).value.2 ∧
      e.registry.Coherent (e.evaluateAt sink p d os).value.2 := by
  obtain ⟨status, w, effects, hrun, hwalked⟩ := walked_evaluateAt hr sink hp os
  have hat := Registry.isAt_of_mem_singleton hp
  have hwritten := hwalked.written hr hat
  obtain ⟨hclosed, hvisited⟩ := hwalked.closed hr hat hos.size_eq hos.closed
  obtain ⟨hevaluated, -⟩ := hwalked.evaluated (by simp) hos.evaluated
  rw [hrun]
  refine ⟨⟨?_, ?_, ?_, ?_⟩, ⟨hwritten.size_eq.trans hos.size_eq, hevaluated, hclosed⟩⟩
  · rw [Outcomes.status, hwalked.get?_of_visit hr hp hos.size_eq]
    rfl
  · intro q hleads
    exact hclosed.has_of_leads hleads (hvisited p ⟨d, List.mem_singleton_self _⟩)
  · intro q hleads
    apply hwritten.get?_eq
    rintro ⟨x, ⟨d', hd'⟩, hx⟩
    cases List.mem_singleton.mp hd'
    exact hleads hx
  · intro hcaching q o hq
    exact hwalked.get?_of_caching hcaching hq

end Evaluator

namespace Turn

variable {r : Registry}

theorem coherent_reached (hr : r.WellFormed) (turns : List (Turn r)) :
    r.Coherent (reached turns) := by
  have hreset (t : Turn r) (_ : t ∈ turns) :
      Session.Ensures r.Coherent (fun _ => True) t.evaluator.reset := by
    intro os hos
    rw [Evaluator.outcomes_reset (e := t.evaluator) hos.size_eq]
    exact ⟨trivial, Registry.coherent_fresh r⟩
  have heval (t : Turn r) (_ : t ∈ turns) (p : Nat) (d : Definition)
      (hp : r.definitions[p]? = some d) :
      Session.Ensures r.Coherent (fun _ => True) (t.evaluator.evaluateAt t.sink p d) := by
    intro os hos
    exact ⟨trivial, (Evaluator.frames_evaluateAt (e := t.evaluator) hr t.sink hp hos).2⟩
  exact (ensures_runAll hr turns hreset heval _ (Registry.coherent_fresh r)).2

/-- After whatever turns the store is coherent, and from there every evaluation of a definition
keeps to its frame. -/
theorem coherent_and_frames (doc : Document) (turns : List (Turn (.ofDocument doc))) :
    (Registry.ofDocument doc).Coherent (reached turns) ∧
      ∀ (inv : Inventory) (settings : Settings) (sink : Option Evaluator.Sink) (p : Nat)
        (d : Definition), (Registry.ofDocument doc).definitions[p]? = some d →
        let e : Evaluator := ⟨.ofDocument doc, inv, settings⟩
        let result := (e.evaluateAt sink p d (reached turns)).value
        e.Frames p (reached turns) result.1 result.2 := by
  have hr := Registry.wellFormed_ofDocument doc
  have hreached := coherent_reached hr turns
  refine ⟨hreached, ?_⟩
  intro inv settings sink p d hp e result
  exact (Evaluator.frames_evaluateAt (e := e) hr sink hp hreached).1

/-- After a reset only `b` was evaluated.  Evaluating `a` goes on from there, and does not come to
`c`, which extends itself. -/
theorem coherent_and_frames_resumed :
    let a : Definition := .extending "a" ["b"]
    let doc : Document :=
      { definitions := [a, .extending "b" ["missing"], .extending "c" ["b", "c"]] }
    let inv : Inventory := ⟨fun _ _ => .ok [], fun _ => .ok none⟩
    let turns : List (Turn (.ofDocument doc)) := [
      ⟨inv, {}, none, .everything⟩,
      ⟨inv, {}, none, .reset⟩,
      ⟨inv, { cacheResults := false }, some .closed, .identifier "b"⟩]
    let e : Evaluator := ⟨.ofDocument doc, inv, {}⟩
    (reached turns).statuses = [.notEvaluated, .error, .notEvaluated] ∧
      (Registry.ofDocument doc).definitions[0]? = some a ∧
        (Registry.ofDocument doc).Coherent (reached turns) ∧
          e.Frames 0 (reached turns) (e.evaluateAt none 0 a (reached turns)).value.1
            (e.evaluateAt none 0 a (reached turns)).value.2 := by
  intro a doc inv turns e
  have hstatuses : (reached turns).statuses = [.notEvaluated, .error, .notEvaluated] := by
    dsimp only [turns, inv, doc, a]
    decide +kernel
  have ha : (Registry.ofDocument doc).definitions[0]? = some a := rfl
  obtain ⟨hcoherent, hframes⟩ := coherent_and_frames doc turns
  -- The rest is about any turns; with these ones at hand they would be taken again.
  clear_value turns
  exact ⟨hstatuses, ha, hcoherent, hframes inv {} none 0 a ha⟩

end Turn
end Oval
