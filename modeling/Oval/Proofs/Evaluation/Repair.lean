import Oval.Proofs.Assessment.Value
import Oval.Proofs.Criteria.Verdict
import Oval.Proofs.Evaluation.History

/-! # Errors never decide

An inventory repairs another one if it answers alike wherever the other answers.  What a test makes
of the answers it makes again, so only errors go away; and an error that goes away turns no verdict
of a tree that was decided, nor of a tree that extends it.
-/
namespace Oval

/-- Every question that the first inventory answers, the second answers alike.  Where the first
fails the second may do as it likes. -/
structure Inventory.RepairedBy (inv inv' : Inventory) : Prop where
  packages {format : PackageFormat} {name : String} {found : List Package} :
    inv.packages format name = .ok found → inv'.packages format name = .ok found
  file {path : String} {content : Option String} :
    inv.file path = .ok content → inv'.file path = .ok content

namespace Assess

variable {α β : Type}

/-- Where the first assessment succeeds, the second does so with the same value. -/
def RepairedBy (x y : Assess α) : Prop := ∀ a, x.run.value = .ok a → y.run.value = .ok a

theorem RepairedBy.refl (x : Assess α) : RepairedBy x x := fun _ h => h

theorem RepairedBy.bind {x y : Assess α} {f g : α → Assess β} (hx : RepairedBy x y)
    (hf : ∀ a, RepairedBy (f a) (g a)) : RepairedBy (x >>= f) (y >>= g) := by
  intro b h
  rw [value_run_bind] at h ⊢
  cases hvalue : x.run.value with
  | error cause =>
    rw [hvalue] at h
    cases h
  | ok a =>
    rw [hvalue] at h
    rw [hx a hvalue]
    exact hf a b h

variable {inv inv' : Inventory}

theorem repairedBy_askPackages (h : inv.RepairedBy inv') (format : PackageFormat)
    (name : String) :
    RepairedBy (ExceptT.mk (inv.askPackages format name))
      (ExceptT.mk (inv'.askPackages format name)) := by
  intro found hfound
  have hanswer := h.packages (eq_ok_of_mapError hfound)
  change (inv'.packages format name).mapError AssessmentError.inventory = .ok found
  rw [hanswer]
  rfl

theorem repairedBy_askFile (h : inv.RepairedBy inv') (path : String) :
    RepairedBy (ExceptT.mk (inv.askFile path)) (ExceptT.mk (inv'.askFile path)) := by
  intro content hcontent
  have hanswer := h.file (eq_ok_of_mapError hcontent)
  change (inv'.file path).mapError AssessmentError.inventory = .ok content
  rw [hanswer]
  rfl

theorem repairedBy_collect (h : inv.RepairedBy inv') (object : TaggedObject) :
    RepairedBy (object.collect inv) (object.collect inv') := by
  cases object with
  | package format o => exact (repairedBy_askPackages h format o.name).bind fun _ => .refl _
  | text o => exact (repairedBy_askFile h o.filepath).bind fun _ => .refl _

end Assess

namespace Registry

variable {r : Registry} {inv inv' : Inventory}

theorem value_assess_of_repairedBy (h : inv.RepairedBy inv') {t : TaggedTest} {verdict : Bool}
    (hvalue : (r.assess inv t).value = .ok verdict) :
    (r.assess inv' t).value = .ok verdict := by
  have houtcome : Assess.RepairedBy (r.outcomeOf inv t) (r.outcomeOf inv' t) := by
    apply Assess.RepairedBy.bind (.refl _)
    rintro ⟨object, states⟩
    exact (Assess.repairedBy_collect h object).bind fun _ => .refl _
  exact houtcome verdict hvalue

theorem repairedBy_criterionErrand (h : inv.RepairedBy inv') (answer answer' : Definition → Outcome)
    (definitionId testRef : String) :
    ((r.criterionErrand inv definitionId testRef).statusFrom answer).RepairedBy
      ((r.criterionErrand inv' definitionId testRef).statusFrom answer') := by
  unfold criterionErrand
  cases r.test? testRef with
  | none => exact .refl _
  | some t =>
    dsimp only
    cases hvalue : (r.assess inv t).value with
    | error cause => exact .inl rfl
    | ok verdict =>
      rw [value_assess_of_repairedBy h hvalue]
      exact .refl _

theorem repairedBy_errand (h : inv.RepairedBy inv') {answer answer' : Definition → Outcome}
    {definitionId : String} {l : Leaf}
    (hvisit : ∀ q d, r.errand inv definitionId l = .visit q d →
      (answer d).status.RepairedBy (answer' d).status) :
    ((r.errand inv definitionId l).statusFrom answer).RepairedBy
      ((r.errand inv' definitionId l).statusFrom answer') := by
  cases l with
  | childless => exact .refl _
  | criterion testRef => exact repairedBy_criterionErrand h answer answer' definitionId testRef
  | extend ref =>
    simp only [errand, extendErrand] at hvisit ⊢
    cases hfind : r.definition? ref with
    | none => exact .refl _
    | some found =>
      rw [hfind] at hvisit
      exact hvisit found.1 found.2 rfl

theorem repairedBy_outcomeFrom (h : inv.RepairedBy inv') {answer answer' : Definition → Outcome}
    {d : Definition}
    (hvisit : ∀ q d', .visit q d' ∈ r.plan inv d →
      (answer d').status.RepairedBy (answer' d').status) :
    (r.outcomeFrom inv answer d).status.RepairedBy (r.outcomeFrom inv' answer' d).status := by
  simp only [outcomeFrom, conclude]
  unfold plan at hvisit ⊢
  split
  · exact .refl _
  · rename_i hcyclic
    rw [if_neg hcyclic] at hvisit
    rw [List.map_map, List.map_map]
    apply Node.repairedBy_verdict
    rw [List.forall₂_map_left_iff, List.forall₂_map_right_iff, List.forall₂_same]
    intro l hl
    apply repairedBy_errand h
    intro q d' hq
    exact hvisit q d' (List.mem_map.mpr ⟨l, hl, hq⟩)

theorem repairedBy_outcome (hr : r.WellFormed) (h : inv.RepairedBy inv') {p : Nat}
    {d : Definition} (hp : r.definitions[p]? = some d) :
    (r.outcome inv d).status.RepairedBy (r.outcome inv' d).status := by
  refine visit_induction hr inv (motive := fun _ d =>
    (r.outcome inv d).status.RepairedBy (r.outcome inv' d).status) ?_ hp
  intro p d hp ih
  rw [outcome_eq hr hp, outcome_eq hr hp]
  exact repairedBy_outcomeFrom h ih

end Registry

/-- Where a definition is found to hold or to fail, it is found so again after failed questions of
the inventory are repaired, both times from an empty store. -/
theorem Evaluator.status_of_repairedBy (doc : Document) {inv inv' : Inventory}
    (h : inv.RepairedBy inv') (settings settings' : Settings) (sink sink' : Option Sink) {p : Nat}
    {d : Definition} (hp : (Registry.ofDocument doc).definitions[p]? = some d) :
    let r := Registry.ofDocument doc
    let before : Finding :=
      ((⟨r, inv, settings⟩ : Evaluator).evaluateAt sink p d (.fresh r.definitionCount)).value.1
    let after : Finding :=
      ((⟨r, inv', settings'⟩ : Evaluator).evaluateAt sink' p d (.fresh r.definitionCount)).value.1
    before.status = .holds ∨ before.status = .fails → after.status = before.status := by
  intro r before after hdecided
  have hr : r.WellFormed := Registry.wellFormed_ofDocument doc
  obtain ⟨hbefore, -⟩ := ensures_evaluateAt_outcome (e := ⟨r, inv, settings⟩) hr sink hp
    (.fresh r.definitionCount) (Registry.consistent_fresh _)
  obtain ⟨hafter, -⟩ := ensures_evaluateAt_outcome (e := ⟨r, inv', settings'⟩) hr sink' hp
    (.fresh r.definitionCount) (Registry.consistent_fresh _)
  have hrepaired : (r.outcome inv d).status.RepairedBy (r.outcome inv' d).status :=
    Registry.repairedBy_outcome hr h hp
  have hstatus : before.status = (r.outcome inv d).status := congrArg Finding.status hbefore
  have hstatus' : after.status = (r.outcome inv' d).status := congrArg Finding.status hafter
  rw [hstatus', hstatus]
  rw [hstatus] at hdecided
  exact hrepaired.eq_of_isDecided hdecided

/-- The package `bash` cannot be asked for at first, but something else decides both definitions. -/
theorem Evaluator.status_of_repairedBy_masked :
    let a : Definition := { id := "a", criteria := { operator := .or, children :=
      [.criterion "broken" false none, .extend "b" true none] } }
    let b : Definition := { id := "b", criteria := { children :=
      [.criterion "absent" false none, .criterion "broken" true none] } }
    let doc : Document := {
      definitions := [a, b]
      tests := { rpminfo := [{ id := "absent", objectRef := "telnet" },
        { id := "broken", objectRef := "bash" }] }
      objects := { rpminfo := [{ id := "telnet", name := "telnet" },
        { id := "bash", name := "bash" }] } }
    let r := Registry.ofDocument doc
    let inv : Inventory :=
      ⟨fun _ name => if name = "bash" then .error "no access" else .ok [], fun _ => .ok none⟩
    let inv' : Inventory :=
      ⟨fun _ name => .ok (if name = "bash" then [⟨"bash", "1", none⟩] else []), fun _ => .ok none⟩
    let before : Finding :=
      ((⟨r, inv, {}⟩ : Evaluator).evaluateAt none 0 a (.fresh r.definitionCount)).value.1
    let after : Finding :=
      ((⟨r, inv', {}⟩ : Evaluator).evaluateAt none 0 a (.fresh r.definitionCount)).value.1
    inv.RepairedBy inv' ∧ r.definitions[0]? = some a ∧
      (before.status = .holds ∨ before.status = .fails) ∧ after.status = before.status := by
  intro a b doc r inv inv' before after
  have hrepaired : inv.RepairedBy inv' := by
    constructor
    · intro format name found h
      by_cases hname : name = "bash"
      · simp [inv, hname] at h
      · simpa [inv, inv', hname] using h
    · intro path content h
      exact h
  have ha : r.definitions[0]? = some a := rfl
  have hdecided : before.status = .holds ∨ before.status = .fails := by
    left
    dsimp only [before, r, doc, a, b, inv]
    decide +kernel
  exact ⟨hrepaired, ha, hdecided,
    Evaluator.status_of_repairedBy doc hrepaired {} {} none none ha hdecided⟩

end Oval
