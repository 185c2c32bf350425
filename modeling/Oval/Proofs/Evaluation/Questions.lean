import Oval.Proofs.Assessment.Effects
import Oval.Proofs.Evaluation.Session

/-! # The questions of an evaluation

A test asks once for the items of its object, if its references can be used, and otherwise nothing.
Without caching a definition asks what its leaves ask, in document order.  What the inventory
answers, and what comes out of a leaf, changes nothing in what is asked after it.
-/
namespace Oval

namespace Registry

variable (r : Registry)

/-- The questions of a test: one for the items of its object, if all its references find entities of
its kind. -/
def testQueries (t : TaggedTest) : List Query :=
  match r.object? t.test.objectRef with
  | some object =>
    if object.kind = t.kind ∧
        ∀ id ∈ t.test.stateRefs, ∃ state ∈ r.state? id, state.kind = t.kind then
      [object.query]
    else []
  | none => []

/-- The questions of a leaf, if `asked` are those of a definition that an extend leaf finds. -/
def leafQueries (asked : Definition → List Query) : Leaf → List Query
  | .childless => []
  | .criterion testRef => (r.test? testRef).elim [] r.testQueries
  | .extend definitionRef => (r.definition? definitionRef).elim [] fun found => asked found.2

/-- The questions of the leaves of a definition, in document order.  One on a cycle asks nothing. -/
def queriesFrom (asked : Definition → List Query) (d : Definition) : List Query :=
  if r.isCyclic d.id then [] else d.criteria.node.leafList.flatMap (r.leafQueries asked)

/-- The questions of a definition, extensions going at most so deep. -/
def queriesWithin : (depth : Nat) → Definition → List Query
  | 0, _ => []
  | depth + 1, d => r.queriesFrom (queriesWithin depth) d

def definitionQueries : Definition → List Query := r.queriesWithin r.definitionCount

variable {r} {t : TaggedTest}

theorem exists_resolves_iff {object : TaggedObject} :
    (∃ states, r.Resolves t object states) ↔
      r.object? t.test.objectRef = some object ∧ object.kind = t.kind ∧
        ∀ id ∈ t.test.stateRefs, ∃ state ∈ r.state? id, state.kind = t.kind := by
  constructor
  · rintro ⟨states, hfound, hkind, hstates⟩
    exact ⟨hfound, hkind, exists_forall₂_iff.mp ⟨states, hstates⟩⟩
  · rintro ⟨hfound, hkind, hall⟩
    obtain ⟨states, hstates⟩ := exists_forall₂_iff.mpr hall
    exact ⟨states, hfound, hkind, hstates⟩

theorem queries_assess_eq_testQueries (inv : Inventory) :
    queries (r.assess inv t).effects = r.testQueries t := by
  rw [queries_assess]
  cases hresolve : r.resolve t with
  | ok resolved =>
    obtain ⟨object, states⟩ := resolved
    obtain ⟨hfound, husable⟩ := exists_resolves_iff.mp ⟨states, resolve_eq_ok_iff.mp hresolve⟩
    rw [testQueries, hfound]
    exact (if_pos husable).symm
  | error cause =>
    rw [testQueries]
    cases hfound : r.object? t.test.objectRef with
    | none => rfl
    | some object =>
      refine (if_neg fun husable => ?_).symm
      obtain ⟨states, hresolves⟩ := exists_resolves_iff.mpr ⟨hfound, husable⟩
      cases hresolve.symm.trans (resolve_eq_ok_iff.mpr hresolves)

theorem length_testQueries_le (r : Registry) (t : TaggedTest) : (r.testQueries t).length ≤ 1 := by
  unfold testQueries
  split
  · split <;> simp
  · simp

theorem queriesFrom_congr (hr : r.WellFormed) {asked asked' : Definition → List Query} {p : Nat}
    {d : Definition} (hp : r.definitions[p]? = some d)
    (h : ∀ q d', r.Follows p q → r.definitions[q]? = some d' → asked d' = asked' d') :
    r.queriesFrom asked d = r.queriesFrom asked' d := by
  unfold queriesFrom
  split
  · rfl
  · rename_i hcyclic
    apply List.flatMap_congr
    intro l hl
    cases l with
    | childless => rfl
    | criterion => rfl
    | extend ref =>
      rw [leafQueries, leafQueries]
      cases hfind : r.definition? ref with
      | none => rfl
      | some found =>
        have hfollows : r.Follows p found.1 :=
          ⟨d, ref, found.2, hp, by simpa using hcyclic, (Node.extend_mem_leafList_iff _ _).mp hl,
            hfind⟩
        exact h found.1 found.2 hfollows (hr.getElem?_of_definition? hfind)

theorem definitionQueries_eq (hr : r.WellFormed) {p : Nat} {d : Definition}
    (hp : r.definitions[p]? = some d) :
    r.definitionQueries d = r.queriesFrom r.definitionQueries d := by
  have hlt : r.rank p < r.definitionCount :=
    rank_lt_definitionCount hr (lt_definitionCount_of_getElem? hp)
  exact eq_of_rank_lt hr (f := r.queriesWithin) (fun _ _ _ _ hp h => queriesFrom_congr hr hp h) hp
    hlt (Nat.lt_succ_of_lt hlt)

end Registry

def Errand.queriesFrom (asked : Definition → List Query) : Errand → List Query
  | settled _ _ effects => queries effects
  | visit _ d => asked d

namespace Registry

variable {r : Registry} {inv : Inventory} (asked : Definition → List Query)

theorem queriesFrom_errand (definitionId : String) (l : Leaf) :
    (r.errand inv definitionId l).queriesFrom asked = r.leafQueries asked l := by
  cases l with
  | childless => rfl
  | criterion testRef =>
    rw [errand, criterionErrand, leafQueries]
    cases r.test? testRef with
    | none => rfl
    | some t =>
      have hassess := queries_assess_eq_testQueries (r := r) (t := t) inv
      dsimp only
      split <;>
        (rw [Errand.queriesFrom, queries_append, hassess]
         exact List.append_nil _)
  | extend ref =>
    rw [errand, extendErrand, leafQueries]
    cases r.definition? ref <;> rfl

theorem flatMap_queriesFrom_plan (d : Definition) :
    (r.plan inv d).flatMap (Errand.queriesFrom asked) = r.queriesFrom asked d := by
  unfold plan queriesFrom
  split
  · rfl
  · rw [List.flatMap_map]
    exact List.flatMap_congr fun l _ => queriesFrom_errand asked d.id l

end Registry

/-- Without caching a walk asks what its errands ask, in their order. -/
theorem Walked.queries_eq {e : Evaluator} (hr : e.registry.WellFormed)
    (huncached : e.settings.cacheResults = false) {errands : List Errand} {w w' : Walk}
    {answers : List Status} {effects : List Effect} (h : Walked e errands w answers w' effects)
    (hat : ∀ x ∈ errands, x.IsAt e.registry) :
    queries effects = errands.flatMap (Errand.queriesFrom e.registry.definitionQueries) := by
  induction h with
  | done w => rfl
  | settled _ ih =>
    obtain ⟨-, hrest⟩ := List.forall_mem_cons.mp hat
    rw [queries_append, ih hrest, List.flatMap_cons]
    rfl
  | replayed hit =>
    rw [Evaluator.cached?, huncached] at hit
    cases hit
  | @entered p d _ _ _ _ _ _ _ _ _ _ _ ihtree ih =>
    obtain ⟨hp, hrest⟩ := List.forall_mem_cons.mp hat
    have htree := ihtree (Registry.isAt_of_mem_plan hr)
    rw [Registry.flatMap_queriesFrom_plan, ← Registry.definitionQueries_eq hr hp] at htree
    rw [queries_append, queries_append, htree, Context.queries_mergeEffects, List.append_nil,
      ih hrest, List.flatMap_cons]
    rfl

namespace Evaluator

theorem queries_evaluateAt {e : Evaluator} (hr : e.registry.WellFormed)
    (huncached : e.settings.cacheResults = false) (sink : Option Sink) {p : Nat} {d : Definition}
    (hp : e.registry.definitions[p]? = some d) (os : Outcomes) :
    queries (e.evaluateAt sink p d os).effects = e.registry.definitionQueries d := by
  obtain ⟨status, w, effects, hrun, hwalked⟩ := walked_evaluateAt hr sink hp os
  have hwalk := hwalked.queries_eq hr huncached (Registry.isAt_of_mem_singleton hp)
  rw [hrun, queries_append, queries_closing, List.append_nil, hwalk]
  exact List.append_nil _

end Evaluator

namespace Registry

/-- A test asks at most once: not at all if a reference of it is dangling or finds an entity of
another kind, and else for the items of its object.  Without caching a definition on a cycle asks
nothing, and any other what its leaves ask, in document order; an extend leaf asks what the
definition asks that it finds.  The answers of the inventory have no part in it. -/
theorem questions_in_document_order :
    (∀ (r : Registry) (t : TaggedTest) (inv : Inventory),
      queries (r.assess inv t).effects = r.testQueries t ∧
        (queries (r.assess inv t).effects).length ≤ 1) ∧
    ∀ (doc : Document) (p : Nat) (d : Definition), doc.definitions[p]? = some d →
      let r := ofDocument doc
      r.definitionQueries d =
        (if r.isCyclic d.id then []
        else d.criteria.node.leafList.flatMap (r.leafQueries r.definitionQueries)) ∧
      ∀ (inv : Inventory) (settings : Settings) (sink : Option Evaluator.Sink) (os : Outcomes),
        settings.cacheResults = false →
        queries (Evaluator.evaluateAt ⟨r, inv, settings⟩ sink p d os).effects =
          r.definitionQueries d := by
  refine ⟨fun r t inv => ?_, fun doc p d hp => ?_⟩
  · rw [queries_assess_eq_testQueries]
    exact ⟨rfl, length_testQueries_le r t⟩
  · have hr := wellFormed_ofDocument doc
    refine ⟨definitionQueries_eq hr hp, fun inv settings sink os huncached => ?_⟩
    exact Evaluator.queries_evaluateAt (e := ⟨ofDocument doc, inv, settings⟩) hr huncached sink hp
      os

/-- The test "broken" refers to an object of another kind, "loop" extends itself, and the inventory
answers nothing. -/
theorem questions_in_document_order_unanswered :
    let top : Definition :=
      { id := "top"
        criteria := { children :=
          [.criterion "package" false none, .extend "loop" false none,
            .criterion "broken" false none, .extend "base" true none,
            .criterion "package" true none] } }
    let base : Definition :=
      { id := "base", criteria := { children := [.criterion "file" false none] } }
    let broken : Test := { id := "broken", objectRef := "bash" }
    let doc : Document :=
      { definitions := [top, .extending "loop" ["loop", "base"], base]
        tests :=
          { rpminfo := [{ id := "package", objectRef := "bash" }]
            dpkginfo := [broken]
            textfilecontent54 := [{ id := "file", objectRef := "passwd" }] }
        objects :=
          { rpminfo := [⟨"bash", "bash"⟩]
            textfilecontent54 :=
              [{ id := "passwd", filepath := "/etc/passwd", pattern := "root" }] } }
    let r := ofDocument doc
    let inv : Inventory := ⟨fun _ _ => .error "no access", fun _ => .error "no access"⟩
    let e : Evaluator := ⟨r, inv, { cacheResults := false }⟩
    doc.definitions[0]? = some top ∧ e.settings.cacheResults = false ∧
      queries (e.evaluateAt none 0 top (.fresh 3)).effects =
        [.packages .rpm "bash", .file "/etc/passwd", .packages .rpm "bash"] ∧
      queries (r.assess inv (.package .dpkg broken)).effects = [] := by
  intro top base broken doc r inv e
  have htop : doc.definitions[0]? = some top := rfl
  have hasked : r.definitionQueries top =
      [.packages .rpm "bash", .file "/etc/passwd", .packages .rpm "bash"] := by decide +kernel
  have hbroken : r.testQueries (.package .dpkg broken) = [] := by decide +kernel
  obtain ⟨htests, hdefinitions⟩ := questions_in_document_order
  obtain ⟨-, hquestions⟩ := hdefinitions doc 0 top htop
  refine ⟨htop, rfl, ?_, (htests r _ inv).1.trans hbroken⟩
  exact (hquestions inv e.settings none (.fresh 3) rfl).trans hasked

end Registry
end Oval
