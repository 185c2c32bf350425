import Oval.Proofs.Assessment.Effects
import Oval.Proofs.Evaluation.Session

/-! # Nested evaluations never wait for themselves

A definition is held while it is evaluated, and asking for one that is held would block for good.
The definitions held at any moment follow each other, so their ranks go up from the innermost one:
they are distinct, there are at most as many as the document has, and none of them is asked for.
-/
namespace Oval

namespace Registry

variable {r : Registry}

/-- The positions that are held when a nested evaluation begins, the innermost first: one that a
request is about, and then extensions of definitions that are not cyclic. -/
inductive Nesting (r : Registry) : List Nat → Prop
  | request {p : Nat} (hp : p < r.definitionCount) : Nesting r [p]
  | extension {p q : Nat} {held : List Nat} (h : Nesting r (p :: held)) (hq : r.Follows p q) :
    Nesting r (q :: p :: held)

theorem Nesting.rank_add_length_lt (hr : r.WellFormed) {stack : List Nat} (h : r.Nesting stack) :
    ∀ p held, stack = p :: held → r.rank p + held.length < r.definitionCount := by
  induction h with
  | request hp =>
    rintro p held ⟨⟩
    exact rank_lt_definitionCount hr hp
  | extension h hq ih =>
    rintro q held ⟨⟩
    have hlt := rank_lt_of_follows hr hq
    have hrest := ih _ _ rfl
    rw [List.length_cons]
    omega

theorem Nesting.pairwise_rank (hr : r.WellFormed) {stack : List Nat} (h : r.Nesting stack) :
    stack.Pairwise (r.rank · < r.rank ·) := by
  induction h with
  | request => exact List.pairwise_singleton _ _
  | extension h hq ih =>
    have hlt := rank_lt_of_follows hr hq
    refine List.pairwise_cons.mpr ⟨?_, ih⟩
    intro x hx
    rcases List.mem_cons.mp hx with rfl | hx
    · exact hlt
    · exact Nat.lt_trans hlt ((List.pairwise_cons.mp ih).1 x hx)

theorem Nesting.nodup (hr : r.WellFormed) {stack : List Nat} (h : r.Nesting stack) :
    stack.Nodup := by
  apply (h.pairwise_rank hr).imp
  intro p q hlt heq
  rw [heq] at hlt
  exact Nat.lt_irrefl _ hlt

theorem Nesting.length_le (hr : r.WellFormed) {stack : List Nat} (h : r.Nesting stack) :
    stack.length ≤ r.definitionCount := by
  cases stack with
  | nil => exact Nat.zero_le _
  | cons p held =>
    have hlt := h.rank_add_length_lt hr p held rfl
    rw [List.length_cons]
    omega

end Registry

def Errand.Works : Errand → Prop
  | settled _ _ effects => ∀ effect ∈ effects, effect.IsWork
  | visit .. => True

theorem Registry.works_of_mem_plan {r : Registry} {inv : Inventory} {d : Definition} {x : Errand}
    (h : x ∈ r.plan inv d) : x.Works := by
  have hnoted (event : Event) : ∀ effect ∈ [Effect.event event, .count .diagnosticRecorded],
      effect.IsWork := by
    simp [Effect.IsWork]
  unfold plan at h
  split at h
  · cases List.mem_singleton.mp h
    simp [Errand.Works, Effect.IsWork]
  · obtain ⟨l, -, rfl⟩ := List.mem_map.mp h
    cases l with
    | childless => simp [errand, Errand.Works, Effect.IsWork]
    | criterion testRef =>
      simp only [errand, criterionErrand]
      split
      · exact hnoted _
      · rename_i t _
        have hassess := r.only_isWork_assess inv t
        split
        · intro effect heffect
          rcases List.mem_append.mp heffect with heffect | heffect
          · exact hassess effect heffect
          · rw [List.mem_singleton.mp heffect]
            trivial
        · intro effect heffect
          rcases List.mem_append.mp heffect with heffect | heffect
          · exact hassess effect heffect
          · exact hnoted _ effect heffect
    | extend ref =>
      simp only [errand, extendErrand]
      split
      · trivial
      · exact hnoted _

theorem Context.isWork_of_mem_mergeEffects {c : Context} {ds : List Diagnostic} {effect : Effect}
    (h : effect ∈ c.mergeEffects ds) : effect.IsWork := by
  obtain ⟨_, -, rfl⟩ := List.mem_map.mp h
  trivial

/-- A walk emits work only: it never asks for a definition that is held. -/
theorem Walked.isWork {e : Evaluator} {errands : List Errand} {w w' : Walk}
    {answers : List Status} {effects : List Effect} (h : Walked e errands w answers w' effects)
    (hworks : ∀ x ∈ errands, x.Works) : ∀ effect ∈ effects, effect.IsWork := by
  induction h with
  | done => simp
  | settled _ ih =>
    obtain ⟨hfirst, hrest⟩ := List.forall_mem_cons.mp hworks
    intro effect heffect
    rcases List.mem_append.mp heffect with heffect | heffect
    · exact hfirst effect heffect
    · exact ih hrest effect heffect
  | replayed _ _ ih =>
    obtain ⟨-, hrest⟩ := List.forall_mem_cons.mp hworks
    intro effect heffect
    rcases List.mem_append.mp heffect with heffect | heffect
    · rcases List.mem_cons.mp heffect with rfl | heffect
      · trivial
      · exact Context.isWork_of_mem_mergeEffects heffect
    · exact ih hrest effect heffect
  | entered _ _ _ ihtree ih =>
    obtain ⟨-, hrest⟩ := List.forall_mem_cons.mp hworks
    have htree := ihtree fun x hx => Registry.works_of_mem_plan hx
    intro effect heffect
    rw [List.append_assoc, List.mem_append, List.mem_append] at heffect
    rcases heffect with heffect | heffect | heffect
    · exact htree effect heffect
    · exact Context.isWork_of_mem_mergeEffects heffect
    · exact ih hrest effect heffect

theorem Walked.isWork_of_visit {e : Evaluator} {p : Nat} {d : Definition} {w w' : Walk}
    {answers : List Status} {effects : List Effect}
    (h : Walked e [.visit p d] w answers w' effects) : ∀ effect ∈ effects, effect.IsWork := by
  have hworks : ∀ x ∈ [Errand.visit p d], x.Works := by simp [Errand.Works]
  exact h.isWork hworks

namespace Evaluator

variable {e : Evaluator}

/-- The tree of a definition asks for no definitions but those that its own one leads to. -/
theorem treeStatus_congr {p : Nat} {d : Definition} (hp : e.registry.definitions[p]? = some d)
    {nested nested' : Nat × Definition → Step Status}
    (h : ∀ q d', e.registry.Follows p q → nested (q, d') = nested' (q, d')) :
    e.treeStatus nested d = e.treeStatus nested' d := by
  unfold treeStatus
  split
  · rfl
  · rename_i hcyclic
    apply Node.status_congr
    intro l hl
    cases l with
    | childless => rfl
    | criterion testRef => rfl
    | extend ref =>
      simp only [Leaves.answer, leaves, extendStatus]
      cases hfind : e.registry.definition? ref with
      | none => rfl
      | some found =>
        exact h found.1 found.2 ⟨d, ref, found.2, hp, by simpa using hcyclic,
          (Node.extend_mem_leafList_iff _ _).mp hl, hfind⟩

theorem isWork_nestedStatus (hr : e.registry.WellFormed) {p : Nat} {held : List Nat}
    (h : e.registry.Nesting (p :: held)) {d : Definition}
    (hp : e.registry.definitions[p]? = some d) {depth : Nat}
    (hdepth : e.registry.definitionCount ≤ depth + held.length) (w : Walk) :
    ∀ effect ∈ (e.nestedStatus depth held (p, d) w).effects, effect.IsWork := by
  have hrank := h.rank_add_length_lt hr p held rfl
  have hheld := (List.pairwise_cons.mp (h.pairwise_rank hr)).1
  obtain ⟨status, w', effects, hrun, hwalked⟩ :=
    visits_nestedStatus hr depth held hp (by omega) hheld w
  rw [hrun]
  exact hwalked.isWork_of_visit

theorem not_blocked_nestedStatus (hr : e.registry.WellFormed) {p : Nat} {held : List Nat}
    (h : e.registry.Nesting (p :: held)) {d : Definition}
    (hp : e.registry.definitions[p]? = some d) {depth : Nat}
    (hdepth : e.registry.definitionCount ≤ depth + held.length) (w : Walk) (q : Nat) :
    .blocked q ∉ (e.nestedStatus depth held (p, d) w).effects :=
  fun hmem => isWork_nestedStatus hr h hp hdepth w _ hmem

theorem not_blocked_closing (sink : Option Sink) (f : Finding) (q : Nat) :
    .blocked q ∉ closing sink f := by
  cases sink with
  | none => simp [closing, deliver]
  | some sink =>
    cases sink <;> simp [closing, deliver, Traced.emit, Traced.report]

theorem not_blocked_evaluateAt (hr : e.registry.WellFormed) (sink : Option Sink) {p : Nat}
    {d : Definition} (hp : e.registry.definitions[p]? = some d) (os : Outcomes) (q : Nat) :
    .blocked q ∉ (e.evaluateAt sink p d os).effects := by
  obtain ⟨status, w, effects, hrun, hwalked⟩ := walked_evaluateAt hr sink hp os
  rw [hrun]
  intro hmem
  rcases List.mem_append.mp hmem with hmem | hmem
  · exact hwalked.isWork_of_visit _ hmem
  · exact not_blocked_closing sink _ q hmem

/-- In every document some rank goes down with each extension that is followed, and the definitions
held at once are distinct and no more than the document has.  A tree asks only for definitions that
its own one leads to.  So no evaluation asks for a definition that is held, from any store and with
any settings; inside any nesting it needs no more depth than there are definitions not held. -/
theorem asks_for_nothing_held (doc : Document) (inv : Inventory) (settings : Settings) :
    let e : Evaluator := ⟨.ofDocument doc, inv, settings⟩
    let r := e.registry
    (∃ rank : Nat → Nat, ∀ p q, r.Follows p q → rank q < rank p) ∧
      (∀ stack, r.Nesting stack → stack.Nodup ∧ stack.length ≤ r.definitionCount) ∧
      ∀ p d, r.definitions[p]? = some d →
        (∀ nested nested', (∀ q d', r.Follows p q → nested (q, d') = nested' (q, d')) →
          e.treeStatus nested d = e.treeStatus nested' d) ∧
        (∀ held depth w q, r.Nesting (p :: held) → r.definitionCount ≤ depth + held.length →
          .blocked q ∉ (e.nestedStatus depth held (p, d) w).effects) ∧
        ∀ sink os q, .blocked q ∉ (e.evaluateAt sink p d os).effects := by
  intro e r
  have hr : r.WellFormed := Registry.wellFormed_ofDocument doc
  refine ⟨⟨r.rank, fun p q h => Registry.rank_lt_of_follows hr h⟩, ?_, ?_⟩
  · intro stack h
    exact ⟨h.nodup hr, h.length_le hr⟩
  · intro p d hp
    refine ⟨?_, ?_, ?_⟩
    · intro nested nested' h
      exact treeStatus_congr hp h
    · intro held depth w q h hdepth
      exact not_blocked_nestedStatus hr h hp hdepth w q
    · intro sink os q
      exact not_blocked_evaluateAt hr sink hp os q

/-- Two definitions share an identifier, and one of them is held where "b" is asked for. -/
theorem asks_for_nothing_held_shared :
    let doc : Document := { definitions :=
      [.extending "a" ["b"], .extending "b" ["missing"], .extending "a" ["b", "b"]] }
    let e : Evaluator := ⟨.ofDocument doc, ⟨fun _ _ => .ok [], fun _ => .ok none⟩, {}⟩
    let r := e.registry
    let b : Definition := .extending "b" ["missing"]
    let last : Definition := .extending "a" ["b", "b"]
    r.Follows 2 1 ∧ r.Nesting [1, 2] ∧ [1, 2].Nodup ∧ [1, 2].length ≤ r.definitionCount ∧
      r.definitions[1]? = some b ∧ r.definitions[2]? = some last ∧
      (∀ q, .blocked q ∉ (e.nestedStatus 2 [2] (1, b) { outcomes := .fresh 3 }).effects) ∧
      e.treeStatus (fun _ => pure .holds) last =
        e.treeStatus (fun s => pure (if s.1 = 1 then .holds else .error)) last := by
  intro doc e r b last
  have hb : r.definitions[1]? = some b := rfl
  have hlast : r.definitions[2]? = some last := rfl
  have hfollows : r.Follows 2 1 :=
    ⟨last, "b", b, hlast, by decide +kernel, .child List.mem_cons_self (.leaf false none), rfl⟩
  have honly (q : Nat) (h : r.Follows 2 q) : q = 1 := by
    obtain ⟨d, ref, d', hd, -, hnames, hfind⟩ := h
    cases hlast.symm.trans hd
    have href : ref ∈ ["b", "b"] := (Node.mem_extendRefs_iff last.criteria.node ref).mpr hnames
    obtain rfl : ref = "b" := by simpa using href
    cases (show some (1, b) = some (q, _) from hfind)
    rfl
  have hnesting : r.Nesting [1, 2] := .extension (.request (by decide)) hfollows
  obtain ⟨-, hstacks, hsteps⟩ := asks_for_nothing_held doc e.inventory e.settings
  obtain ⟨hnodup, hlength⟩ := hstacks [1, 2] hnesting
  refine ⟨hfollows, hnesting, hnodup, hlength, hb, hlast, ?_, ?_⟩
  · intro q
    exact (hsteps 1 b hb).2.1 [2] 2 _ q hnesting (by decide)
  · apply (hsteps 2 last hlast).1
    intro q d' hq
    rw [honly q hq]
    rfl

end Evaluator
end Oval
