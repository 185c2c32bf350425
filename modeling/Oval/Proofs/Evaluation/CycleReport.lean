import Oval.Proofs.Evaluation.Session

/-! # Cycles are reported exactly

The diagnostic of a cycle names a definition on one, and a definition on a cycle has it among its
diagnostics.  Both pass from the stored outcomes to every walk and back into the store, whichever
inventories were asked meanwhile.
-/
namespace Oval

namespace Diagnostic

theorem extendCycle_injective {x y : String} (h : extendCycle x = extendCycle y) : x = y :=
  congrArg definitionId h

theorem childless_ne_extendCycle (definitionId y : String) :
    childless definitionId ≠ extendCycle y := by
  intro h
  cases congrArg severity h

theorem error_ne_extendCycle {message : String} (h : message.toList.head? ≠ some 'd')
    (definitionId y : String) : error definitionId message ≠ extendCycle y := by
  intro heq
  have hmessage : message = "definition '" ++ y ++ "' is part of an extend_definition cycle" :=
    congrArg Diagnostic.message heq
  rw [hmessage] at h
  simp at h

end Diagnostic

def Errand.Blames (r : Registry) (x : Errand) : Prop :=
  ∀ y, x.diagnostic? = some (.extendCycle y) → r.isCyclic y = true

namespace Registry

variable {r : Registry} {inv : Inventory}

theorem diagnostic?_errand_ne_extendCycle (definitionId : String) (l : Leaf) (y : String) :
    (r.errand inv definitionId l).diagnostic? ≠ some (.extendCycle y) := by
  intro h
  cases l with
  | childless => exact Diagnostic.childless_ne_extendCycle _ _ (Option.some.inj h)
  | criterion testRef =>
    simp only [errand, criterionErrand] at h
    split at h
    · exact Diagnostic.error_ne_extendCycle (by simp) _ _ (Option.some.inj h)
    · split at h
      · cases h
      · exact Diagnostic.error_ne_extendCycle (by simp) _ _ (Option.some.inj h)
  | extend ref =>
    simp only [errand, extendErrand] at h
    split at h
    · cases h
    · exact Diagnostic.error_ne_extendCycle (by simp) _ _ (Option.some.inj h)

theorem blames_of_mem_plan {d : Definition} {x : Errand} (hx : x ∈ r.plan inv d) :
    x.Blames r := by
  intro y h
  unfold plan at hx
  split at hx
  · rename_i hcyclic
    cases List.mem_singleton.mp hx
    have hid : d.id = y := Diagnostic.extendCycle_injective (Option.some.inj h)
    rw [← hid]
    exact hcyclic
  · obtain ⟨l, -, rfl⟩ := List.mem_map.mp hx
    exact absurd h (diagnostic?_errand_ne_extendCycle _ _ _)

/-- The diagnostics call only definitions on a cycle cyclic. -/
def Blames (r : Registry) (ds : List Diagnostic) : Prop :=
  ∀ y, .extendCycle y ∈ ds → r.isCyclic y = true

theorem blames_nil : r.Blames [] := fun _ h => absurd h List.not_mem_nil

/-- They say so of the definition itself too, if it is on a cycle. -/
structure Flags (r : Registry) (d : Definition) (ds : List Diagnostic) : Prop where
  blames : r.Blames ds
  self : r.isCyclic d.id = true → .extendCycle d.id ∈ ds

def Flagged (r : Registry) : Outcomes → Prop := r.Stored fun d o => r.Flags d o.diagnostics

theorem Blames.note {c : Context} (h : r.Blames c.recorded) {diagnostic : Option Diagnostic}
    (hd : ∀ y, diagnostic = some (.extendCycle y) → r.isCyclic y = true) :
    r.Blames (c.note diagnostic).recorded := by
  cases diagnostic with
  | none => exact h
  | some d =>
    intro y hy
    rcases List.mem_append.mp hy with hy | hy
    · exact h y hy
    · exact hd y (congrArg some (List.mem_singleton.mp hy).symm)

theorem Blames.merge {c : Context} (h : r.Blames c.recorded) {ds : List Diagnostic}
    (hds : r.Blames ds) : r.Blames (c.merge ds).recorded := by
  intro y hy
  rw [Context.recorded_merge, List.mem_append] at hy
  rcases hy with hy | hy
  · exact h y hy
  · exact hds y (List.mem_of_mem_filter hy)

end Registry

theorem Walked.flags_tree {e : Evaluator} {d : Definition} {os : Outcomes} {w : Walk}
    {answers : List Status} {effects : List Effect}
    (h : Walked e (e.registry.plan e.inventory d) { outcomes := os } answers w effects)
    (hblames : e.registry.Blames w.context.recorded) : e.registry.Flags d w.context.recorded where
  blames := hblames
  self hcyclic := by
    rw [Registry.plan, if_pos hcyclic] at h
    cases h with
    | settled hrest =>
      cases hrest
      exact List.mem_singleton_self _

/-- A walk keeps what the store says about cycles. -/
theorem Walked.flagged {e : Evaluator} (hr : e.registry.WellFormed) {errands : List Errand}
    {w w' : Walk} {answers : List Status} {effects : List Effect}
    (h : Walked e errands w answers w' effects) (hat : ∀ x ∈ errands, x.IsAt e.registry)
    (hblames : ∀ x ∈ errands, x.Blames e.registry) (hstore : e.registry.Flagged w.outcomes)
    (hcontext : e.registry.Blames w.context.recorded) :
    e.registry.Flagged w'.outcomes ∧ e.registry.Blames w'.context.recorded := by
  induction h with
  | done w => exact ⟨hstore, hcontext⟩
  | settled _ ih =>
    obtain ⟨-, hat⟩ := List.forall_mem_cons.mp hat
    obtain ⟨hx, hblames⟩ := List.forall_mem_cons.mp hblames
    exact ih hat hblames hstore (hcontext.note hx)
  | @replayed p d outcome _ _ _ _ _ hit _ ih =>
    obtain ⟨hp, hat⟩ := List.forall_mem_cons.mp hat
    obtain ⟨-, hblames⟩ := List.forall_mem_cons.mp hblames
    have hflags := hstore p d outcome hp (Evaluator.get?_of_cached? hit)
    exact ih hat hblames hstore (hcontext.merge hflags.blames)
  | @entered p d _ _ _ w inner _ _ _ _ tree _ ihtree ih =>
    obtain ⟨hp, hat⟩ := List.forall_mem_cons.mp hat
    obtain ⟨-, hblames⟩ := List.forall_mem_cons.mp hblames
    obtain ⟨hinner, hrecorded⟩ := ihtree (Registry.isAt_of_mem_plan hr)
      (fun _ => Registry.blames_of_mem_plan) hstore Registry.blames_nil
    have hflags := tree.flags_tree hrecorded
    exact ih hat hblames (hinner.store hp hflags) (hcontext.merge hrecorded)

namespace Evaluator

variable {e : Evaluator}

theorem flags_of_walked_visit (hr : e.registry.WellFormed) {p : Nat} {d : Definition}
    (hp : e.registry.definitions[p]? = some d) {os : Outcomes} (hos : e.registry.Flagged os)
    {status : Status} {w : Walk} {effects : List Effect}
    (h : Walked e [.visit p d] { outcomes := os } [status] w effects) :
    e.registry.Flags d w.context.recorded ∧ e.registry.Flagged w.outcomes := by
  cases h with
  | replayed hit hdone =>
    cases hdone
    rw [Context.recorded_merge_empty]
    exact ⟨hos p d _ hp (get?_of_cached? hit), hos⟩
  | entered miss tree hdone =>
    cases hdone
    obtain ⟨hstore, hblames⟩ := tree.flagged hr (Registry.isAt_of_mem_plan hr)
      (fun _ => Registry.blames_of_mem_plan) hos Registry.blames_nil
    have hflags := tree.flags_tree hblames
    rw [Context.recorded_merge_empty]
    exact ⟨hflags, hstore.store hp hflags⟩

/-- Every finding reports cycles as its definition's diagnostics flag them, before the cut. -/
theorem ensures_evaluateAt_flags (hr : e.registry.WellFormed) (sink : Option Sink) {p : Nat}
    {d : Definition} (hp : e.registry.definitions[p]? = some d) :
    Session.Ensures e.registry.Flagged
      (fun f => ∃ ds, e.registry.Flags d ds ∧
        f.diagnostics = Context.cut e.settings.maxDiagnostics ds)
      (e.evaluateAt sink p d) := by
  intro os hos
  obtain ⟨status, w, effects, hrun, hwalked⟩ := walked_evaluateAt hr sink hp os
  obtain ⟨hflags, hafter⟩ := flags_of_walked_visit hr hp hos hwalked
  rw [hrun]
  exact ⟨⟨w.context.recorded, hflags, rfl⟩, hafter⟩

end Evaluator

theorem Turn.flagged_runAll {r : Registry} (hr : r.WellFormed) (turns : List (Turn r)) :
    r.Flagged (Turn.runAll turns (.fresh r.definitionCount)).value.2 := by
  have heval (t : Turn r) (_ : t ∈ turns) (p : Nat) (d : Definition)
      (hp : r.definitions[p]? = some d) :
      Session.Ensures r.Flagged
        (fun f => ∃ ds, r.Flags d ds ∧ f.diagnostics = Context.cut t.settings.maxDiagnostics ds)
        (t.evaluator.evaluateAt t.sink p d) :=
    Evaluator.ensures_evaluateAt_flags (e := t.evaluator) hr t.sink hp
  have hreset (t : Turn r) (_ : t ∈ turns) :
      Session.Ensures r.Flagged (fun _ => True) t.evaluator.reset :=
    Session.ensures_reset (e := t.evaluator) _
  exact (Turn.ensures_runAll hr turns hreset heval _ (Registry.stored_fresh _)).2

/-- An identifier is found cyclic exactly if its definition is on a cycle of extensions, and after
whatever turns, of whatever evaluators, the finding for the identifier says so exactly then, if the
limit has left its diagnostics whole. -/
theorem Registry.cycles_exact (doc : Document) (id : String) :
    let r := Registry.ofDocument doc
    (r.isCyclic id = true ↔ r.OnCycle id) ∧
      ∀ (turns : List (Turn r)) (inv : Inventory) (settings : Settings)
        (sink : Option Evaluator.Sink) (p : Nat) (d : Definition),
        r.definition? id = some (p, d) →
        let e : Evaluator := ⟨r, inv, settings⟩
        let reached := (Turn.runAll turns (.fresh r.definitionCount)).value.2
        ∃ f, (e.evaluate sink id reached).value.1 = .ok f ∧
          (f.diagnostics.length ≤ settings.maxDiagnostics →
            (.extendCycle id ∈ f.diagnostics ↔ r.OnCycle id)) := by
  intro r
  have hr : r.WellFormed := wellFormed_ofDocument doc
  refine ⟨hr.isCyclic_iff id, ?_⟩
  intro turns inv settings sink p d hfind e reached
  have hp := hr.getElem?_of_definition? hfind
  obtain ⟨⟨ds, hflags, hcut⟩, -⟩ := Evaluator.ensures_evaluateAt_flags (e := e) hr sink hp
    reached (Turn.flagged_runAll hr turns)
  refine ⟨_, Evaluator.evaluate_of_definition? (e := e) hfind sink reached, ?_⟩
  intro hwhole
  rw [hcut] at hwhole ⊢
  rw [Context.cut_eq_of_length_le hwhole, ← hr.isCyclic_iff id]
  have hid : d.id = id := hr.id_of_definition? hfind
  constructor
  · exact hflags.blames id
  · intro hcyclic
    rw [← hid] at hcyclic ⊢
    exact hflags.self hcyclic

/-- The limit of the turn before cuts off every report, and "a" only leads into the cycle. -/
theorem Registry.cycles_exact_entered :
    let doc : Document := { definitions := [.extending "a" ["b"], .extending "b" ["missing", "b"]] }
    let r := ofDocument doc
    let inv : Inventory := ⟨fun _ _ => .ok [], fun _ => .ok none⟩
    let turns : List (Turn r) := [⟨inv, { maxDiagnostics := 0 }, none, .everything⟩]
    let e : Evaluator := ⟨r, inv, {}⟩
    let reached := (Turn.runAll turns (.fresh r.definitionCount)).value.2
    let cycle : Diagnostic := .error "b" "definition 'b' is part of an extend_definition cycle"
    (e.evaluate none "a" reached).value.1 = .ok ⟨"a", "", .error, [cycle]⟩ ∧ ¬r.OnCycle "a" ∧
      (e.evaluate none "b" reached).value.1 = .ok ⟨"b", "", .error, [cycle]⟩ ∧ r.OnCycle "b" := by
  intro doc r inv turns e reached cycle
  have hreport (id : String) {p : Nat} {d : Definition} {f : Finding}
      (hfind : r.definition? id = some (p, d))
      (hf : (e.evaluate none id reached).value.1 = .ok f)
      (hwhole : f.diagnostics.length ≤ e.settings.maxDiagnostics) :
      .extendCycle id ∈ f.diagnostics ↔ r.OnCycle id := by
    obtain ⟨f', hf', hexact⟩ := (cycles_exact doc id).2 turns inv {} none p d hfind
    obtain rfl : f' = f := Except.ok.inj (hf'.symm.trans hf)
    exact hexact hwhole
  have hfind : r.definition? "a" = some (0, .extending "a" ["b"]) := rfl
  have hfind' : r.definition? "b" = some (1, .extending "b" ["missing", "b"]) := rfl
  have ha : (e.evaluate none "a" reached).value.1 = .ok ⟨"a", "", .error, [cycle]⟩ := by
    decide +kernel
  have hb : (e.evaluate none "b" reached).value.1 = .ok ⟨"b", "", .error, [cycle]⟩ := by
    decide +kernel
  have hleading := hreport "a" hfind ha (by decide)
  have hcyclic := hreport "b" hfind' hb (by decide)
  exact ⟨ha, hleading.not.mp (by decide), hb, hcyclic.mp (by decide)⟩

/-- Leading into a cycle is not being on it. -/
example : (Registry.ofDocument { definitions := [.extending "a" ["b"], .extending "b" ["c"],
    .extending "c" ["b", "d"], .extending "d" ["missing"]] }).cyclicIds = ["b", "c"] := by
  cbv

end Oval
