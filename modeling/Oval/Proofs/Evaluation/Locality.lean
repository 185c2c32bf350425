import Oval.Proofs.Evaluation.Session
import Oval.Proofs.Registry.Closure

/-! # Only what a root depends on matters

Registries that agree from a root give it the same plan of errands, but for the positions that are
visited.  Walks from stores that hold the same at those positions answer the same and have the same
effects, so the evaluation of the root cannot tell one document from the other.
-/
namespace Oval

namespace Registry

variable {r r' : Registry} {root : String} {inv : Inventory}

theorem resolve_eq {t : TaggedTest}
    (hobject : r.object? t.test.objectRef = r'.object? t.test.objectRef)
    (hstates : ∀ stateRef ∈ t.test.stateRefs, r.state? stateRef = r'.state? stateRef) :
    r.resolve t = r'.resolve t := by
  have hobjectOf : r.objectOf t = r'.objectOf t := by
    rw [objectOf, objectOf, hobject]
  have hstatesOf : r.statesOf t = r'.statesOf t := by
    apply Node.mapM_congr_of_mem
    intro stateRef hmem
    rw [hstates stateRef hmem]
  rw [resolve, resolve, hobjectOf, hstatesOf]

theorem assess_eq {t : TaggedTest} (h : r.resolve t = r'.resolve t) :
    r.assess inv t = r'.assess inv t := by
  unfold assess outcomeOf
  rw [h]

theorem criterionErrand_eq_settled (r : Registry) (inv : Inventory)
    (definitionId testRef : String) : ∃ status diagnostic effects,
      r.criterionErrand inv definitionId testRef = .settled status diagnostic effects := by
  unfold criterionErrand
  split
  · exact ⟨_, _, _, rfl⟩
  · split <;> exact ⟨_, _, _, rfl⟩

/-- The errands are settled alike or visit twins. -/
inductive Matches (r r' : Registry) (root : String) : Errand → Errand → Prop
  | settled (status : Status) (diagnostic : Option Diagnostic) (effects : List Effect) :
    Matches r r' root (.settled status diagnostic effects) (.settled status diagnostic effects)
  | visit {p p' : Nat} {d d' : Definition} (h : r.Twins r' root (p, d) (p', d')) :
    Matches r r' root (.visit p d) (.visit p' d')

theorem Matches.of_visit {p : Nat} {d : Definition} {x : Errand}
    (h : r.Matches r' root (.visit p d) x) :
    ∃ p' d', x = .visit p' d' ∧ r.Twins r' root (p, d) (p', d') := by
  cases h with
  | visit htwins => exact ⟨_, _, rfl, htwins⟩

namespace AgreeFrom

theorem criterionErrand_eq (h : r.AgreeFrom r' root) {testRef : String}
    (hconsults : r.Consults root testRef) (definitionId : String) :
    r.criterionErrand inv definitionId testRef = r'.criterionErrand inv definitionId testRef := by
  unfold criterionErrand
  rw [← h.test testRef hconsults]
  cases htest : r.test? testRef with
  | none => rfl
  | some t =>
    have hresolve : r.resolve t = r'.resolve t :=
      resolve_eq (h.object testRef t hconsults htest) (h.state testRef t hconsults htest)
    simp only [assess_eq hresolve]

theorem matches_extendErrand (h : r.AgreeFrom r' root) {ref : String} (hid : r.Closure root ref)
    (definitionId : String) :
    r.Matches r' root (r.extendErrand definitionId ref) (r'.extendErrand definitionId ref) := by
  unfold extendErrand
  rcases h.lookup hid with ⟨p, d, p', d', hfind, hfind', -⟩ | ⟨hnone, hnone'⟩
  · rw [hfind, hfind']
    exact .visit ⟨ref, hid, hfind, hfind'⟩
  · rw [hnone, hnone']
    exact .settled ..

theorem matches_plan (h : r.AgreeFrom r' root) (hr : r.WellFormed) (hr' : r'.WellFormed)
    {p p' : Nat} {d d' : Definition} (htwins : r.Twins r' root (p, d) (p', d')) :
    List.Forall₂ (r.Matches r' root) (r.plan inv d) (r'.plan inv d') := by
  obtain ⟨hid, hfind⟩ := htwins.self hr
  have halike := htwins.alike h
  unfold plan
  rw [← halike.id_eq, ← halike.criteria_eq, ← h.isCyclic_eq hr hr' hid]
  split
  · exact .cons (.settled ..) .nil
  · rw [List.forall₂_map_left_iff, List.forall₂_map_right_iff, List.forall₂_same]
    intro l hl
    cases l with
    | childless => exact .settled ..
    | criterion testRef =>
      have hconsults : r.Consults root testRef := ⟨d.id, p, d, hid, hfind, hl⟩
      obtain ⟨status, diagnostic, effects, hsettled⟩ :=
        r.criterionErrand_eq_settled inv d.id testRef
      rw [errand, errand, ← h.criterionErrand_eq hconsults, hsettled]
      exact .settled ..
    | extend ref =>
      have hnames := (Node.extend_mem_leafList_iff _ _).mp hl
      exact h.matches_extendErrand (hid.tail ⟨p, d, hfind, hnames⟩) d.id

theorem conclude_eq (h : r.AgreeFrom r' root) (hr : r.WellFormed) (hr' : r'.WellFormed)
    {p p' : Nat} {d d' : Definition} (htwins : r.Twins r' root (p, d) (p', d'))
    (answers : List Status) : r.conclude d answers = r'.conclude d' answers := by
  have halike := htwins.alike h
  rw [conclude, conclude, ← halike.id_eq, ← halike.criteria_eq,
    ← h.isCyclic_eq hr hr' (htwins.self hr).1]

end AgreeFrom

/-- Both stores have places for the definitions of their registries and hold the same outcomes for
twins, and the contexts are the same. -/
structure Mirrors (r r' : Registry) (root : String) (w w' : Walk) : Prop where
  size_eq : w.outcomes.size = r.definitionCount
  size_eq' : w'.outcomes.size = r'.definitionCount
  get?_eq : ∀ p d p' d', r.Twins r' root (p, d) (p', d') →
    w.outcomes.get? p = w'.outcomes.get? p'
  context_eq : w.context = w'.context

theorem mirrors_fresh (r r' : Registry) (root : String) :
    r.Mirrors r' root { outcomes := .fresh r.definitionCount }
      { outcomes := .fresh r'.definitionCount } where
  size_eq := Outcomes.size_fresh _
  size_eq' := Outcomes.size_fresh _
  get?_eq p d p' d' _ := by rw [Outcomes.get?_fresh, Outcomes.get?_fresh]
  context_eq := rfl

namespace Mirrors

variable {w w' : Walk}

theorem withContext (h : r.Mirrors r' root w w') {c c' : Context} (hc : c = c') :
    r.Mirrors r' root { w with context := c } { w' with context := c' } :=
  ⟨h.size_eq, h.size_eq', h.get?_eq, hc⟩

theorem store (h : r.Mirrors r' root w w') (hr : r.WellFormed) (hr' : r'.WellFormed)
    {p p' : Nat} {d d' : Definition} (htwins : r.Twins r' root (p, d) (p', d')) (o : Outcome) :
    r.Mirrors r' root { w with outcomes := w.outcomes.store p o }
      { w' with outcomes := w'.outcomes.store p' o } where
  size_eq := (Outcomes.size_store ..).trans h.size_eq
  size_eq' := (Outcomes.size_store ..).trans h.size_eq'
  get?_eq q c q' c' hq := by
    have hsame : q = p ↔ q' = p' := Twins.position_eq_iff hr hr' hq htwins
    have hp : p < w.outcomes.size := h.size_eq ▸
      lt_definitionCount_of_getElem? (htwins.getElem?_left hr)
    have hp' : p' < w'.outcomes.size := h.size_eq' ▸
      lt_definitionCount_of_getElem? (htwins.getElem?_right hr')
    rw [Outcomes.get?_store, Outcomes.get?_store, h.get?_eq q c q' c' hq]
    simp only [hp, hp', hsame, and_true]
  context_eq := h.context_eq

theorem cached?_eq (h : r.Mirrors r' root w w') (inv : Inventory) (settings : Settings)
    {p p' : Nat} {d d' : Definition} (htwins : r.Twins r' root (p, d) (p', d')) :
    Evaluator.cached? ⟨r, inv, settings⟩ w.outcomes p =
      Evaluator.cached? ⟨r', inv, settings⟩ w'.outcomes p' := by
  rw [Evaluator.cached?, Evaluator.cached?, h.get?_eq p d p' d' htwins]

end Mirrors
end Registry

/-- Getting through matching errands from mirrored states gives the same answers and effects, and
leaves mirrored states. -/
theorem Walked.mirrors {r r' : Registry} {root : String} {inv : Inventory} {settings : Settings}
    (hagree : r.AgreeFrom r' root) (hr : r.WellFormed) (hr' : r'.WellFormed)
    {errands errands' : List Errand} {w w' v v' : Walk} {answers answers' : List Status}
    {effects effects' : List Effect}
    (h : Walked ⟨r, inv, settings⟩ errands w answers v effects)
    (h' : Walked ⟨r', inv, settings⟩ errands' w' answers' v' effects')
    (hmatches : List.Forall₂ (r.Matches r' root) errands errands')
    (hw : r.Mirrors r' root w w') :
    answers = answers' ∧ effects = effects' ∧ r.Mirrors r' root v v' := by
  -- The errands and the stores leave the second walk no other rule than the first one took.
  induction h generalizing errands' w' answers' effects' v' with
  | done w =>
    cases hmatches
    cases h'
    exact ⟨rfl, rfl, hw⟩
  | @settled _ diagnostic _ _ _ w _ _ _ ih =>
    have hnote : w.context.note diagnostic = w'.context.note diagnostic := by rw [hw.context_eq]
    obtain ⟨_, rest', hfirst, hrest, rfl⟩ := List.forall₂_cons_left_iff.mp hmatches
    cases hfirst
    cases h' with
    | settled h' =>
      obtain ⟨rfl, rfl, hv⟩ := ih h' hrest (hw.withContext hnote)
      exact ⟨rfl, rfl, hv⟩
  | @replayed p d outcome _ _ w _ _ hit _ ih =>
    have hmerge : w.context.merge outcome.diagnostics = w'.context.merge outcome.diagnostics := by
      rw [hw.context_eq]
    obtain ⟨_, rest', hfirst, hrest, rfl⟩ := List.forall₂_cons_left_iff.mp hmatches
    obtain ⟨p', d', rfl, htwins⟩ := hfirst.of_visit
    have hcached := hw.cached?_eq inv settings htwins
    cases h' with
    | replayed hit' h' =>
      cases hit.symm.trans (hcached.trans hit')
      obtain ⟨rfl, rfl, hv⟩ := ih h' hrest (hw.withContext hmerge)
      rw [hw.context_eq]
      exact ⟨rfl, rfl, hv⟩
    | entered miss' => cases hit.symm.trans (hcached.trans miss')
  | @entered p d _ _ _ w inner _ innerAnswers _ miss _ _ ihtree ih =>
    obtain ⟨_, rest', hfirst, hrest, rfl⟩ := List.forall₂_cons_left_iff.mp hmatches
    obtain ⟨p', d', rfl, htwins⟩ := hfirst.of_visit
    have hcached := hw.cached?_eq inv settings htwins
    cases h' with
    | replayed hit' => cases miss.symm.trans (hcached.trans hit')
    | @entered _ _ _ _ _ _ inner' _ _ _ _ tree' h' =>
      obtain ⟨rfl, rfl, hinner⟩ := ihtree tree' (hagree.matches_plan hr hr' htwins)
        (hw.withContext rfl)
      have hconclude : r.conclude d innerAnswers = r'.conclude d' innerAnswers :=
        hagree.conclude_eq hr hr' htwins innerAnswers
      have hmerge : w.context.merge inner.context.recorded =
          w'.context.merge inner.context.recorded := by rw [hw.context_eq]
      have hstore := hinner.store hr hr' htwins
        ⟨r.conclude d innerAnswers, inner.context.recorded⟩
      dsimp only at h'
      rw [← hconclude, ← hinner.context_eq] at h'
      obtain ⟨rfl, rfl, hv⟩ := ih h' hrest (hstore.withContext hmerge)
      rw [← hconclude, ← hinner.context_eq, hw.context_eq]
      exact ⟨rfl, rfl, hv⟩

namespace Evaluator

variable {r r' : Registry} {root : String} {inv : Inventory} {settings : Settings}

theorem evaluateAt_local (hagree : r.AgreeFrom r' root) (hr : r.WellFormed) (hr' : r'.WellFormed)
    (sink : Option Sink) {p p' : Nat} {d d' : Definition}
    (htwins : r.Twins r' root (p, d) (p', d')) :
    let result := evaluateAt ⟨r, inv, settings⟩ sink p d (.fresh r.definitionCount)
    let result' := evaluateAt ⟨r', inv, settings⟩ sink p' d' (.fresh r'.definitionCount)
    result.value.1 = result'.value.1 ∧ result.effects = result'.effects := by
  intro result result'
  have halike := htwins.alike hagree
  obtain ⟨status, w, effects, hrun, hwalked⟩ := walked_evaluateAt (e := ⟨r, inv, settings⟩) hr sink
    (htwins.getElem?_left hr) (.fresh r.definitionCount)
  obtain ⟨status', w', effects', hrun', hwalked'⟩ := walked_evaluateAt
    (e := ⟨r', inv, settings⟩) hr' sink (htwins.getElem?_right hr') (.fresh r'.definitionCount)
  obtain ⟨hanswers, rfl, hw⟩ := hwalked.mirrors hagree hr hr' hwalked'
    (.cons (.visit htwins) .nil) (Registry.mirrors_fresh r r' root)
  obtain rfl := List.head_eq_of_cons_eq hanswers
  have hfinding : finding ⟨r, inv, settings⟩ d ⟨status, w.context.recorded⟩ =
      finding ⟨r', inv, settings⟩ d' ⟨status, w'.context.recorded⟩ := by
    rw [finding, finding, halike.id_eq, halike.title_eq, hw.context_eq]
  dsimp only [result, result']
  rw [hrun, hrun', hfinding]
  exact ⟨rfl, rfl⟩

/-- Evaluating a root through registries that agree from it gives the same finding, or the same
error, and has the same effects; so the same questions are put to the inventory, in the same order.
It does not matter where the documents keep what the root depends on, nor what else they hold. -/
theorem evaluate_local (doc doc' : Document) (inv : Inventory) (settings : Settings)
    (sink : Option Sink) (root : String)
    (hagree : (Registry.ofDocument doc).AgreeFrom (.ofDocument doc') root) :
    let e : Evaluator := ⟨.ofDocument doc, inv, settings⟩
    let e' : Evaluator := ⟨.ofDocument doc', inv, settings⟩
    let result := e.evaluate sink root (.fresh e.registry.definitionCount)
    let result' := e'.evaluate sink root (.fresh e'.registry.definitionCount)
    result.value.1 = result'.value.1 ∧ result.effects = result'.effects ∧
      queries result.effects = queries result'.effects := by
  intro e e' result result'
  have hr := Registry.wellFormed_ofDocument doc
  have hr' := Registry.wellFormed_ofDocument doc'
  suffices h : result.value.1 = result'.value.1 ∧ result.effects = result'.effects from
    ⟨h.1, h.2, congrArg queries h.2⟩
  rcases hagree.lookup .refl with ⟨p, d, p', d', hfind, hfind', -⟩ | ⟨hnone, hnone'⟩
  · have htwins : (Registry.ofDocument doc).Twins (.ofDocument doc') root (p, d) (p', d') :=
      ⟨root, .refl, hfind, hfind'⟩
    obtain ⟨hvalue, heffects⟩ := evaluateAt_local hagree hr hr' sink htwins
    refine ⟨?_, ?_⟩
    · dsimp only [result, result']
      rw [evaluate_of_definition? hfind, evaluate_of_definition? hfind']
      exact congrArg Except.ok hvalue
    · dsimp only [result, result']
      rw [effects_evaluate_of_definition? hfind, effects_evaluate_of_definition? hfind']
      exact heffects
  · dsimp only [result, result']
    rw [evaluate, evaluate, hnone, hnone']
    exact ⟨rfl, rfl⟩

/-- The second document keeps the definitions elsewhere, among a cycle, a duplicate and entities
that nothing refers to, some of them broken. -/
theorem evaluate_local_crowded :
    let criteria : Criteria :=
      { children :=
          [.extend "base" false none, .criterion "t" true none, .extend "gone" false none] }
    let test : Test := { id := "t", objectRef := "o", stateRefs := ["s"] }
    let state : PackageState := { id := "s", evr := some ⟨.known .greaterThanOrEqual, "5"⟩ }
    let base : Criteria := { children := [.criterion "t" false none] }
    let doc : Document :=
      { definitions := [⟨"top", { title := "Top" }, criteria⟩, { id := "base", criteria := base }]
        tests := { rpminfo := [test] }
        objects := { rpminfo := [⟨"o", "bash"⟩] }
        states := { rpminfo := [state] } }
    let doc' : Document :=
      { definitions := [.extending "noise" ["noise", "top"],
          ⟨"base", { description := some "shared" }, base⟩, ⟨"top", { title := "Top" }, criteria⟩,
          .extending "base" []]
        tests := { rpminfo := [{ id := "broken", objectRef := "gone" }, test] }
        objects := { rpminfo := [⟨"o", "bash"⟩, ⟨"o", "zsh"⟩] }
        states := { rpminfo := [state], dpkginfo := [{ id := "s" }] } }
    let inv : Inventory := ⟨fun _ _ => .ok [⟨"bash", "5.1", none⟩], fun _ => .ok none⟩
    let e : Evaluator := ⟨.ofDocument doc, inv, {}⟩
    let e' : Evaluator := ⟨.ofDocument doc', inv, {}⟩
    let result := e.evaluate none "top" (.fresh e.registry.definitionCount)
    let result' := e'.evaluate none "top" (.fresh e'.registry.definitionCount)
    e.registry.AgreeFrom e'.registry "top" ∧
      queries result'.effects = [.packages .rpm "bash", .packages .rpm "bash"] ∧
      result.value.1 = result'.value.1 ∧ result.effects = result'.effects ∧
      queries result.effects = queries result'.effects := by
  intro criteria test state base doc doc' inv e e' result result'
  have hagree : (Registry.ofDocument doc).AgreeFrom (.ofDocument doc') "top" := by
    apply Registry.agreeFrom_of_within ["top", "base", "gone"] ["t"] List.mem_cons_self
    · dsimp only [doc, criteria, base, test, state]
      decide +kernel
    · simp only [List.forall_mem_cons]
      exact ⟨.some ⟨rfl, rfl, rfl⟩, .some ⟨rfl, rfl, rfl⟩, .none, List.forall_mem_nil _⟩
    · dsimp only [doc, doc', criteria, base, test, state]
      decide +kernel
    · dsimp only [doc, doc', criteria, base, test, state]
      decide +kernel
    · dsimp only [doc, doc', criteria, base, test, state]
      decide +kernel
  have hqueries : queries result'.effects = [.packages .rpm "bash", .packages .rpm "bash"] := by
    dsimp only [result', e', inv, doc', criteria, base, test, state]
    decide +kernel
  exact ⟨hagree, hqueries, evaluate_local doc doc' inv {} none "top" hagree⟩

end Evaluator
end Oval
