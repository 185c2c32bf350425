import Oval.Proofs.Evaluation.History

/-! # Every diagnostic once, and none lost

The diagnostics of an evaluation come in groups, one for each definition that the evaluation leads
to: what the definition's own leaves leave, in document order.  A merge takes a group as a whole or
leaves it out as a whole, so that the number of ways to a definition does not matter.
-/
namespace Oval

def Diagnostic.about (ds : List Diagnostic) (y : String) : List Diagnostic :=
  ds.filter (·.definitionId == y)

namespace Diagnostic

@[simp] theorem about_append (ds ds' : List Diagnostic) (y : String) :
    about (ds ++ ds') y = about ds y ++ about ds' y := List.filter_append ..

theorem about_ne_nil_iff {ds : List Diagnostic} {y : String} :
    about ds y ≠ [] ↔ y ∈ ds.map definitionId := by
  simp [about, List.filter_eq_nil_iff]

end Diagnostic

open Diagnostic (about about_append about_ne_nil_iff)

/-- What a merge adds about a definition is all or nothing. -/
theorem Context.about_fresh (c : Context) (ds : List Diagnostic) (y : String) :
    about (c.fresh ds) y = if y ∈ c.merged then [] else about ds y := by
  rw [about, fresh, List.filter_filter]
  split
  · rename_i hmem
    apply List.filter_eq_nil_iff.mpr
    intro d _
    simp only [Bool.and_eq_true, beq_iff_eq, Bool.not_eq_true', List.contains_eq_mem,
      decide_eq_false_iff_not, not_and, not_not]
    rintro rfl
    exact hmem
  · rename_i hmem
    apply List.filter_congr
    intro d _
    by_cases h : d.definitionId = y
    · simp [h, hmem]
    · simp [h]

namespace Registry

variable (r : Registry) (inv : Inventory)

def leafDiagnostic? (definitionId : String) : Leaf → Option Diagnostic
  | .childless => some (.childless definitionId)
  | .criterion testRef =>
    match r.test? testRef with
    | none => some (.unknownTest definitionId testRef)
    | some t =>
      match (r.assess inv t).value with
      | .ok _ => none
      | .error cause => some (.failedTest definitionId testRef cause)
  | .extend definitionRef =>
    if (r.definition? definitionRef).isNone then
      some (.unknownDefinition definitionId definitionRef)
    else none

/-- The diagnostics of a definition's own: the one of its cycle, or those of its leaves. -/
def own (d : Definition) : List Diagnostic :=
  if r.isCyclic d.id then [.extendCycle d.id]
  else d.criteria.node.leafList.filterMap (r.leafDiagnostic? inv d.id)

variable {r inv}

theorem diagnostic?_errand (definitionId : String) (l : Leaf) :
    (r.errand inv definitionId l).diagnostic? = r.leafDiagnostic? inv definitionId l := by
  cases l with
  | childless => rfl
  | criterion testRef =>
    simp only [errand, criterionErrand, leafDiagnostic?]
    cases r.test? testRef with
    | none => rfl
    | some t =>
      cases hvalue : (r.assess inv t).value with
      | ok verdict => simp only [Errand.diagnostic?, hvalue]
      | error cause => simp only [Errand.diagnostic?, hvalue]
  | extend ref =>
    simp only [errand, extendErrand, leafDiagnostic?]
    cases r.definition? ref with
    | none => rfl
    | some found => rfl

theorem own_eq_filterMap_plan (d : Definition) :
    r.own inv d = (r.plan inv d).filterMap Errand.diagnostic? := by
  unfold own plan
  split
  · rfl
  · rw [List.filterMap_map]
    apply List.filterMap_congr
    intro l _
    exact (diagnostic?_errand _ _).symm

theorem definitionId_of_mem_own {d : Definition} {diagnostic : Diagnostic}
    (h : diagnostic ∈ r.own inv d) : diagnostic.definitionId = d.id := by
  unfold own at h
  split at h
  · rw [List.mem_singleton.mp h]
    rfl
  · obtain ⟨l, -, hl⟩ := List.mem_filterMap.mp h
    cases l with
    | childless =>
      cases hl
      rfl
    | criterion testRef =>
      simp only [leafDiagnostic?] at hl
      split at hl
      · cases hl
        rfl
      · split at hl
        · cases hl
        · cases hl
          rfl
    | extend ref =>
      simp only [leafDiagnostic?] at hl
      split at hl
      · cases hl
        rfl
      · cases hl

open Classical in
/-- The group about an identifier that evaluating some definitions gives: that of the definition
found, if one of them leads to it. -/
noncomputable def group (r : Registry) (inv : Inventory) (starts : Nat → Prop) (y : String) :
    List Diagnostic :=
  match r.definition? y with
  | some (q, d) => if ∃ p, starts p ∧ r.Leads p q then r.own inv d else []
  | none => []

variable {starts starts' : Nat → Prop} {y : String}

theorem group_of_leads {q : Nat} {d : Definition} (hfind : r.definition? y = some (q, d))
    (h : ∃ p, starts p ∧ r.Leads p q) : r.group inv starts y = r.own inv d := by
  simp only [group, hfind]
  exact if_pos h

theorem group_of_not_leads {q : Nat} {d : Definition} (hfind : r.definition? y = some (q, d))
    (h : ¬∃ p, starts p ∧ r.Leads p q) : r.group inv starts y = [] := by
  simp only [group, hfind]
  exact if_neg h

theorem group_eq_nil
    (h : ∀ q d, r.definition? y = some (q, d) → ¬∃ p, starts p ∧ r.Leads p q) :
    r.group inv starts y = [] := by
  unfold group
  split
  · rename_i q d hfind
    exact if_neg (h q d hfind)
  · rfl

theorem group_congr
    (h : ∀ q d, r.definition? y = some (q, d) →
      ((∃ p, starts p ∧ r.Leads p q) ↔ ∃ p, starts' p ∧ r.Leads p q)) :
    r.group inv starts y = r.group inv starts' y := by
  classical
  unfold group
  split
  · rename_i q d hfind
    exact if_congr (h q d hfind) rfl rfl
  · rfl

/-- Of two sets of definitions the first that leads to a group gives it, and gives all of it. -/
theorem group_or :
    r.group inv (fun p => starts p ∨ starts' p) y =
      if r.group inv starts y = [] then r.group inv starts' y else r.group inv starts y := by
  cases hfind : r.definition? y with
  | none => simp [group, hfind]
  | some found =>
    obtain ⟨q, d⟩ := found
    by_cases hfirst : ∃ p, starts p ∧ r.Leads p q
    · have hboth : ∃ p, (starts p ∨ starts' p) ∧ r.Leads p q :=
        hfirst.imp fun p hp => ⟨.inl hp.1, hp.2⟩
      rw [group_of_leads hfind hboth, group_of_leads hfind hfirst]
      split
      · rename_i hnil
        simp [group, hfind, hnil]
      · rfl
    · have hnil : r.group inv starts y = [] := group_of_not_leads hfind hfirst
      rw [if_pos hnil]
      apply group_congr
      intro q' d' hfind'
      cases hfind.symm.trans hfind'
      constructor
      · rintro ⟨p, hp | hp, hleads⟩
        · exact absurd ⟨p, hp, hleads⟩ hfirst
        · exact ⟨p, hp, hleads⟩
      · rintro ⟨p, hp, hleads⟩
        exact ⟨p, .inr hp, hleads⟩

theorem visited_append_settled (errands : List Errand) (status : Status)
    (diagnostic : Option Diagnostic) (effects : List Effect) :
    Visited (errands ++ [.settled status diagnostic effects]) = Visited errands := by
  funext q
  simp [Visited]

theorem visited_append_visit (errands : List Errand) (q : Nat) (d : Definition) :
    Visited (errands ++ [.visit q d]) = fun p => Visited errands p ∨ p = q := by
  funext p
  apply propext
  constructor
  · rintro ⟨d', hmem⟩
    rcases List.mem_append.mp hmem with hmem | hmem
    · exact .inl ⟨d', hmem⟩
    · cases List.mem_singleton.mp hmem
      exact .inr rfl
  · rintro (⟨d', hmem⟩ | rfl)
    · exact ⟨d', List.mem_append_left _ hmem⟩
    · exact ⟨d, List.mem_append_right _ (List.mem_singleton_self _)⟩

theorem group_visited_nil (y : String) : r.group inv (Visited []) y = [] := by
  apply group_eq_nil
  rintro q d - ⟨p, ⟨d', hmem⟩, -⟩
  exact absurd hmem List.not_mem_nil

/-- The context after some errands of the definition with the identifier `owner`: it holds what they
leave themselves and the groups that their visits lead to, and it has marked just the latter. -/
structure Grouped (r : Registry) (inv : Inventory) (owner : String) (errands : List Errand)
    (c : Context) : Prop where
  own : about c.recorded owner = errands.filterMap Errand.diagnostic?
  others (y : String) : y ≠ owner → about c.recorded y = r.group inv (Visited errands) y
  merged (y : String) : y ∈ c.merged ↔ y ≠ owner ∧ about c.recorded y ≠ []

variable {owner : String} {errands : List Errand} {c : Context}

theorem grouped_nil : r.Grouped inv owner [] {} where
  own := rfl
  others y _ := (group_visited_nil y).symm
  merged y := by simp [about]

theorem Grouped.note (h : r.Grouped inv owner errands c) (status : Status)
    {diagnostic : Option Diagnostic} (effects : List Effect)
    (howner : ∀ d, diagnostic = some d → d.definitionId = owner) :
    r.Grouped inv owner (errands ++ [.settled status diagnostic effects]) (c.note diagnostic) := by
  cases diagnostic with
  | none =>
    refine ⟨?_, ?_, h.merged⟩
    · rw [List.filterMap_append]
      exact h.own.trans (List.append_nil _).symm
    · intro y hy
      rw [visited_append_settled]
      exact h.others y hy
  | some d =>
    have hid := howner d rfl
    have hown : about [d] owner = [d] := by simp [about, hid]
    have hothers (y : String) (hy : y ≠ owner) :
        about (c.record d).recorded y = about c.recorded y := by
      have hnone : about [d] y = [] := by
        rw [← hid] at hy
        simp [about, hy.symm]
      rw [Context.recorded_record, about_append, hnone, List.append_nil]
    change r.Grouped inv owner _ (c.record d)
    refine ⟨?_, ?_, ?_⟩
    · rw [Context.recorded_record, about_append, List.filterMap_append, h.own, hown]
      rfl
    · intro y hy
      rw [visited_append_settled, hothers y hy]
      exact h.others y hy
    · intro y
      rw [Context.merged_record, h.merged]
      apply and_congr_right
      intro hy
      rw [hothers y hy]

/-- A merge brings every group along that is not there yet. -/
theorem Grouped.merge (h : r.Grouped inv owner errands c) {q : Nat} (d : Definition)
    {ds : List Diagnostic} (hds : ∀ y, about ds y = r.group inv (· = q) y)
    (howner : r.group inv (· = q) owner = []) :
    r.Grouped inv owner (errands ++ [.visit q d]) (c.merge ds) := by
  have habout (y : String) : about (c.merge ds).recorded y =
      about c.recorded y ++ if y ∈ c.merged then [] else r.group inv (· = q) y := by
    rw [Context.recorded_merge, about_append, Context.about_fresh, hds]
  have hnothing : about (c.merge ds).recorded owner = about c.recorded owner := by
    rw [habout, howner, ite_self, List.append_nil]
  have hothers (y : String) (hy : y ≠ owner) : about (c.merge ds).recorded y =
      if about c.recorded y = [] then r.group inv (· = q) y else about c.recorded y := by
    rw [habout]
    by_cases hnil : about c.recorded y = []
    · have hmem : y ∉ c.merged := fun hmem => ((h.merged y).mp hmem).2 hnil
      rw [if_neg hmem, if_pos hnil, hnil, List.nil_append]
    · have hmem : y ∈ c.merged := (h.merged y).mpr ⟨hy, hnil⟩
      rw [if_pos hmem, if_neg hnil, List.append_nil]
  refine ⟨?_, ?_, ?_⟩
  · rw [List.filterMap_append, hnothing, h.own]
    exact (List.append_nil _).symm
  · intro y hy
    rw [visited_append_visit, group_or, hothers y hy, h.others y hy]
  · intro y
    rw [Context.merged_merge, List.mem_append, ← about_ne_nil_iff, hds, h.merged]
    by_cases hy : y = owner
    · subst hy
      simp [howner]
    · rw [hothers y hy]
      by_cases hnil : about c.recorded y = []
      · simp [hy, hnil]
      · simp [hy, hnil]

theorem grouped_foldl (answer : Definition → Outcome) (errands : List Errand)
    (hsettled : ∀ x ∈ errands, ∀ d, x.diagnostic? = some d → d.definitionId = owner)
    (hvisit : ∀ q d, .visit q d ∈ errands → r.group inv (· = q) owner = [] ∧
      ∀ y, about (answer d).diagnostics y = r.group inv (· = q) y) :
    r.Grouped inv owner errands (errands.foldl (Errand.addTo answer) {}) := by
  -- From the end, since the invariant speaks of the errands done so far.
  induction errands using List.reverseRecOn with
  | nil => exact grouped_nil
  | append_singleton errands x ih =>
    have hbefore := ih (fun x hx => hsettled x (List.mem_append_left _ hx))
      (fun q d hq => hvisit q d (List.mem_append_left _ hq))
    have hlast : x ∈ errands ++ [x] := List.mem_append_right _ (List.mem_singleton_self x)
    rw [List.foldl_append, List.foldl_cons, List.foldl_nil]
    cases x with
    | settled status diagnostic effects =>
      exact hbefore.note status effects (hsettled _ hlast)
    | visit q d =>
      obtain ⟨howner, hds⟩ := hvisit q d hlast
      exact hbefore.merge d hds howner

theorem definitionId_of_mem_plan {d : Definition} {x : Errand} (hx : x ∈ r.plan inv d)
    {diagnostic : Diagnostic} (h : x.diagnostic? = some diagnostic) :
    diagnostic.definitionId = d.id := by
  have hown : diagnostic ∈ r.own inv d := by
    rw [own_eq_filterMap_plan]
    exact List.mem_filterMap.mpr ⟨x, hx, h⟩
  exact definitionId_of_mem_own hown

/-- A definition that is found leads to others by what it visits first. -/
theorem group_plan (hr : r.WellFormed) {p : Nat} {d : Definition}
    (hp : r.definitions[p]? = some d) (hy : y ≠ d.id) :
    r.group inv (Visited (r.plan inv d)) y = r.group inv (· = p) y := by
  apply group_congr
  intro q d' hfind
  constructor
  · rintro ⟨x, hvisited, hleads⟩
    exact ⟨p, rfl, .head ((follows_iff_visit hp).mpr hvisited) hleads⟩
  · rintro ⟨_, rfl, hleads⟩
    rcases Relation.ReflTransGen.cases_head hleads with rfl | ⟨x, hfollows, hrest⟩
    · have hq := hr.getElem?_of_definition? hfind
      obtain rfl : d' = d := Option.some.inj (hq.symm.trans hp)
      exact absurd (hr.id_of_definition? hfind).symm hy
    · exact ⟨x, (follows_iff_visit hp).mp hfollows, hrest⟩

/-- The diagnostics of a definition that is found are the groups that it leads to, each once. -/
theorem about_outcome (hr : r.WellFormed) {p : Nat} {d : Definition}
    (hfind : r.definition? d.id = some (p, d)) (y : String) :
    about (r.outcome inv d).diagnostics y = r.group inv (· = p) y := by
  have hp := hr.getElem?_of_definition? hfind
  revert hfind y
  refine visit_induction hr inv (motive := fun p d => r.definition? d.id = some (p, d) →
    ∀ y, about (r.outcome inv d).diagnostics y = r.group inv (· = p) y) ?_ hp
  intro p d hp ih hfind y
  have hvisit (q : Nat) (d' : Definition) (hq : .visit q d' ∈ r.plan inv d) :
      r.group inv (· = q) d.id = [] ∧
        ∀ y, about (r.outcome inv d').diagnostics y = r.group inv (· = q) y := by
    constructor
    · -- What is visited does not lead back, so no group of `d` itself comes with it.
      apply group_eq_nil
      rintro q' d'' hfind' ⟨_, rfl, hleads⟩
      cases hfind.symm.trans hfind'
      have hfollows := (follows_iff_visit hp).mpr ⟨d', hq⟩
      exact not_transGen_follows_self hr p (.head' hfollows hleads)
    · obtain ⟨-, ref, -, href⟩ := visit_mem_plan_iff.mp hq
      apply ih q d' hq
      rw [hr.id_of_definition? href]
      exact href
  have hgrouped := grouped_foldl (r.outcome inv) (r.plan inv d)
    (fun x hx _ h => definitionId_of_mem_plan hx h) hvisit
  rw [outcome_eq hr hp]
  change about ((r.plan inv d).foldl (Errand.addTo (r.outcome inv)) {}).recorded y = _
  by_cases hy : y = d.id
  · have hleads : ∃ x, x = p ∧ r.Leads x p := ⟨p, rfl, .refl⟩
    rw [hy, hgrouped.own, ← own_eq_filterMap_plan, group_of_leads hfind hleads]
  · rw [hgrouped.others y hy, group_plan hr hp hy]

end Registry

end Oval
