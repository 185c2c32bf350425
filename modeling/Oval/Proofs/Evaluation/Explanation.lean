import Oval.Proofs.Criteria.Verdict
import Oval.Proofs.Evaluation.DiagnosticGroups

/-! # Undecided verdicts are explained

A definition ends up with every diagnostic of the definitions that it visits: what a merge leaves
out came along with an earlier one, because the group about an identifier is the same wherever it
is found.  So whatever kept a verdict from being decided has its diagnostic there, however many
extensions away it lies.
-/
namespace Oval

open Diagnostic (about about_ne_nil_iff)

/-- The diagnostics account for the status: an error comes with an error, and a status that is
unknown with the warning about a group without children. -/
structure Explained (status : Status) (ds : List Diagnostic) : Prop where
  evaluated : status ≠ .notEvaluated
  error : status = .error → ∃ x ∈ ds, x.severity = .error
  unknown : status = .unknown → ∃ x ∈ ds, x.severity = .warning ∧ ∃ y, x = .childless y

namespace Explained

variable {status : Status} {ds ds' : List Diagnostic}

theorem of_isDecided (h : status.IsDecided) (ds : List Diagnostic) : Explained status ds := by
  rcases h with rfl | rfl
  · exact ⟨by decide, nofun, nofun⟩
  · exact ⟨by decide, nofun, nofun⟩

theorem mono (h : Explained status ds) (hsub : ds ⊆ ds') : Explained status ds' where
  evaluated := h.evaluated
  error hstatus := by
    obtain ⟨x, hx, hseverity⟩ := h.error hstatus
    exact ⟨x, hsub hx, hseverity⟩
  unknown hstatus := by
    obtain ⟨x, hx, hwarning⟩ := h.unknown hstatus
    exact ⟨x, hsub hx, hwarning⟩

theorem isDecided_of_eq_nil (h : Explained status ds) (hnil : ds = []) : status.IsDecided := by
  subst hnil
  cases status with
  | holds => exact .inl rfl
  | fails => exact .inr rfl
  | error =>
    obtain ⟨x, hx, -⟩ := h.error rfl
    exact absurd hx List.not_mem_nil
  | unknown =>
    obtain ⟨x, hx, -⟩ := h.unknown rfl
    exact absurd hx List.not_mem_nil
  | notEvaluated => exact absurd rfl h.evaluated

end Explained

theorem Context.recorded_subset_note (c : Context) (diagnostic : Option Diagnostic) :
    c.recorded ⊆ (c.note diagnostic).recorded := by
  cases diagnostic with
  | none => exact List.Subset.refl _
  | some d => exact List.subset_append_left _ _

/-- The context after some errands holds what they leave themselves and all that their visits
bring.  It has marked only what a visit brought something about. -/
structure Gathered (answer : Definition → Outcome) (errands : List Errand) (c : Context) :
    Prop where
  own : ∀ x ∈ errands, ∀ d, x.diagnostic? = some d → d ∈ c.recorded
  brought : ∀ q d, .visit q d ∈ errands → (answer d).diagnostics ⊆ c.recorded
  merged : ∀ y ∈ c.merged, ∃ q d, .visit q d ∈ errands ∧ about (answer d).diagnostics y ≠ []

section Gathering

variable {answer : Definition → Outcome} {errands : List Errand} {c : Context}

theorem gathered_nil : Gathered answer [] {} where
  own _ h := absurd h List.not_mem_nil
  brought _ _ h := absurd h List.not_mem_nil
  merged _ h := absurd h List.not_mem_nil

theorem Gathered.note (h : Gathered answer errands c) (status : Status)
    (diagnostic : Option Diagnostic) (effects : List Effect) :
    Gathered answer (errands ++ [.settled status diagnostic effects]) (c.note diagnostic) where
  own x hx d hd := by
    rcases List.mem_append.mp hx with hx | hx
    · exact c.recorded_subset_note diagnostic (h.own x hx d hd)
    · cases List.mem_singleton.mp hx
      obtain rfl : diagnostic = some d := hd
      exact List.mem_append_right _ (List.mem_singleton_self d)
  brought q d hd := by
    rcases List.mem_append.mp hd with hd | hd
    · exact List.Subset.trans (h.brought q d hd) (c.recorded_subset_note diagnostic)
    · cases List.mem_singleton.mp hd
  merged y hy := by
    have hold : y ∈ c.merged := by
      cases diagnostic with
      | none => exact hy
      | some d => exact hy
    obtain ⟨q, d, hd, habout⟩ := h.merged y hold
    exact ⟨q, d, List.mem_append_left _ hd, habout⟩

theorem Gathered.merge (h : Gathered answer errands c) {group : String → List Diagnostic} {q : Nat}
    {d : Definition} (hgroup : ∀ q' d', .visit q' d' ∈ errands ++ [.visit q d] → ∀ y,
      about (answer d').diagnostics y ≠ [] → about (answer d').diagnostics y = group y) :
    Gathered answer (errands ++ [.visit q d]) (c.merge (answer d).diagnostics) where
  own x hx d hd := by
    rcases List.mem_append.mp hx with hx | hx
    · exact List.mem_append_left _ (h.own x hx d hd)
    · cases List.mem_singleton.mp hx
      cases hd
  brought q' d' hd' := by
    rcases List.mem_append.mp hd' with hold | hlast
    · exact List.Subset.trans (h.brought q' d' hold) (List.subset_append_left _ _)
    · cases List.mem_singleton.mp hlast
      intro x hx
      by_cases hmarked : x.definitionId ∈ c.merged
      · obtain ⟨q', d', hbefore, hsome⟩ := h.merged _ hmarked
        have hself : x ∈ about (answer d).diagnostics x.definitionId := by
          simpa [about] using hx
        have hsame : about (answer d').diagnostics x.definitionId =
            about (answer d).diagnostics x.definitionId := by
          rw [hgroup _ _ (List.mem_append_left _ hbefore) _ hsome,
            hgroup _ _ hd' _ (List.ne_nil_of_mem hself)]
        rw [← hsame] at hself
        exact List.mem_append_left _ (h.brought q' d' hbefore (List.mem_of_mem_filter hself))
      · exact List.mem_append_right _ (List.mem_filter.mpr ⟨hx, by simpa using hmarked⟩)
  merged y hy := by
    rw [Context.merged_merge, List.mem_append, ← about_ne_nil_iff] at hy
    rcases hy with hy | hy
    · obtain ⟨q', d', hd', habout⟩ := h.merged y hy
      exact ⟨q', d', List.mem_append_left _ hd', habout⟩
    · exact ⟨q, d, List.mem_append_right _ (List.mem_singleton_self _), hy⟩

theorem gathered_foldl (group : String → List Diagnostic) (errands : List Errand)
    (hgroup : ∀ q d, .visit q d ∈ errands → ∀ y,
      about (answer d).diagnostics y ≠ [] → about (answer d).diagnostics y = group y) :
    Gathered answer errands (errands.foldl (Errand.addTo answer) {}) := by
  induction errands using List.reverseRecOn with
  | nil => exact gathered_nil
  | append_singleton errands x ih =>
    have hbefore := ih fun q d hd => hgroup q d (List.mem_append_left _ hd)
    rw [List.foldl_append, List.foldl_cons, List.foldl_nil]
    cases x with
    | settled status diagnostic effects => exact hbefore.note status diagnostic effects
    | visit q d => exact hbefore.merge hgroup

end Gathering

namespace Registry

variable {r : Registry} {inv : Inventory}

/-- A group that is there at all is the one that every start gives. -/
theorem group_eq_of_ne_nil {starts : Nat → Prop} {y : String} (h : r.group inv starts y ≠ []) :
    r.group inv starts y = r.group inv (fun _ => True) y := by
  cases hfind : r.definition? y with
  | none =>
    refine absurd (group_eq_nil ?_) h
    intro q d hfind'
    cases hfind.symm.trans hfind'
  | some found =>
    obtain ⟨q, d⟩ := found
    by_cases hleads : ∃ p, starts p ∧ r.Leads p q
    · rw [group_of_leads hfind hleads, group_of_leads hfind ⟨q, trivial, .refl⟩]
    · refine absurd (group_eq_nil ?_) h
      intro q' d' hfind'
      cases hfind.symm.trans hfind'
      exact hleads

theorem gathered_outcome (hr : r.WellFormed) (inv : Inventory) {p : Nat} {d : Definition}
    (hp : r.definitions[p]? = some d) :
    ∃ c, Gathered (r.outcome inv) (r.plan inv d) c ∧
      c.recorded = (r.outcome inv d).diagnostics := by
  refine ⟨_, gathered_foldl (r.group inv fun _ => True) _ ?_, ?_⟩
  · intro q d' hvisit y hsome
    obtain ⟨-, ref, -, hfind⟩ := visit_mem_plan_iff.mp hvisit
    have hself : r.definition? d'.id = some (q, d') := by
      rw [hr.id_of_definition? hfind]
      exact hfind
    rw [about_outcome hr hself] at hsome ⊢
    exact group_eq_of_ne_nil hsome
  · rw [outcome_eq hr hp]
    rfl

theorem explained_of_mem_plan {d : Definition} {status : Status} {diagnostic : Option Diagnostic}
    {effects : List Effect} (h : .settled status diagnostic effects ∈ r.plan inv d) :
    Explained status diagnostic.toList := by
  have herror {x : Diagnostic} (hx : x.severity = .error) : Explained .error [x] :=
    ⟨by decide, fun _ => ⟨x, List.mem_singleton_self x, hx⟩, nofun⟩
  unfold plan at h
  split at h
  · cases List.mem_singleton.mp h
    exact herror rfl
  · obtain ⟨l, -, hl⟩ := List.mem_map.mp h
    cases l with
    | childless =>
      cases hl
      exact ⟨by decide, nofun, fun _ => ⟨_, List.mem_singleton_self _, rfl, _, rfl⟩⟩
    | criterion testRef =>
      simp only [errand, criterionErrand] at hl
      split at hl
      · cases hl
        exact herror rfl
      · split at hl
        · cases hl
          exact .of_isDecided (Status.isDecided_ofBool _) _
        · cases hl
          exact herror rfl
    | extend ref =>
      simp only [errand, extendErrand] at hl
      split at hl
      · cases hl
      · cases hl
        exact herror rfl

theorem isDecided_conclude_or_mem {d : Definition} {answer : Definition → Outcome}
    (h : .notEvaluated ∉ (r.plan inv d).map (Errand.statusFrom answer)) :
    (r.conclude d ((r.plan inv d).map (Errand.statusFrom answer))).IsDecided ∨
      r.conclude d ((r.plan inv d).map (Errand.statusFrom answer)) ∈
        (r.plan inv d).map (Errand.statusFrom answer) := by
  unfold conclude
  unfold plan at h ⊢
  split
  · exact .inr (List.mem_singleton_self _)
  · rename_i hcyclic
    rw [if_neg hcyclic] at h
    exact Node.isDecided_verdict_or_mem _ (by simp) h

theorem explained_outcome (hr : r.WellFormed) (inv : Inventory) {p : Nat} {d : Definition}
    (hp : r.definitions[p]? = some d) :
    Explained (r.outcome inv d).status (r.outcome inv d).diagnostics := by
  refine visit_induction hr inv (motive := fun _ d =>
    Explained (r.outcome inv d).status (r.outcome inv d).diagnostics) ?_ hp
  intro p d hp ih
  obtain ⟨c, hgathered, hrecorded⟩ := gathered_outcome hr inv hp
  have hanswer : ∀ x ∈ r.plan inv d,
      Explained (x.statusFrom (r.outcome inv)) (r.outcome inv d).diagnostics := by
    intro x hx
    rw [← hrecorded]
    cases x with
    | settled status diagnostic effects =>
      apply (explained_of_mem_plan hx).mono
      intro y hy
      exact hgathered.own _ hx y (Option.mem_toList.mp hy)
    | visit q d' => exact (ih q d' hx).mono (hgathered.brought q d' hx)
  have hevaluated : .notEvaluated ∉ (r.plan inv d).map (Errand.statusFrom (r.outcome inv)) := by
    intro hmem
    obtain ⟨x, hx, hstatus⟩ := List.mem_map.mp hmem
    exact (hanswer x hx).evaluated hstatus
  have hstatus : (r.outcome inv d).status =
      r.conclude d ((r.plan inv d).map (Errand.statusFrom (r.outcome inv))) := by
    rw [outcome_eq hr hp]
    rfl
  rw [hstatus]
  rcases isDecided_conclude_or_mem hevaluated with hdecided | hmem
  · exact .of_isDecided hdecided _
  · obtain ⟨x, hx, heq⟩ := List.mem_map.mp hmem
    rw [← heq]
    exact hanswer x hx

end Registry

/-- A finding for which `all` diagnostics were recorded: a limit that leaves them whole leaves an
explained status, and any other leaves just as many as it says, with the summary after them. -/
structure Finding.ExplainedUpTo (f : Finding) (limit : Nat) (all : List Diagnostic) : Prop where
  whole : all.length ≤ limit → f.diagnostics = all ∧ Explained f.status f.diagnostics ∧
    (f.diagnostics = [] → f.status.IsDecided)
  cut : limit < all.length → f.diagnostics.length = limit + 1 ∧
    f.diagnostics.getLast? = some (Context.summary limit (all.length - limit) (all.take limit))

theorem Evaluator.explainedUpTo_finding (e : Evaluator) (d : Definition) {o : Outcome}
    (h : Explained o.status o.diagnostics) :
    (e.finding d o).ExplainedUpTo e.settings.maxDiagnostics o.diagnostics where
  whole hle := by
    have hwhole : (e.finding d o).diagnostics = o.diagnostics := Context.cut_of_le hle
    rw [hwhole]
    exact ⟨rfl, h, h.isDecided_of_eq_nil⟩
  cut hlt := by
    constructor
    · exact (Context.length_cut _ _).trans (Nat.min_eq_right hlt)
    · exact (congrArg List.getLast? (Context.cut_of_lt hlt)).trans List.getLast?_concat

/-- Whatever turns are taken with one inventory, every stored outcome and every finding that is not
cut has a diagnostic for a status that is not decided. -/
theorem Turn.runAll_explained (doc : Document) (inv : Inventory)
    (turns : List (Turn (.ofDocument doc))) (hinv : ∀ t ∈ turns, t.inventory = inv) :
    (Registry.ofDocument doc).Stored
        (fun _ o => Explained o.status o.diagnostics ∧ (o.diagnostics = [] → o.status.IsDecided))
        (Turn.reached turns) ∧
      List.Forall₂
        (fun t fs => List.Forall₂
          (fun s f => f.ExplainedUpTo t.settings.maxDiagnostics
            ((Registry.ofDocument doc).alone inv s.1 s.2).diagnostics)
          t.subjects fs)
        turns (Turn.findings turns) := by
  have hr := Registry.wellFormed_ofDocument doc
  obtain ⟨hfindings, hstore⟩ :=
    Turn.ensures_runAll_outcome hr turns hinv _ (Registry.consistent_fresh _)
  constructor
  · intro p d o hp ho
    obtain rfl := hstore p d o hp ho
    have hexplained := Registry.explained_outcome hr inv hp
    exact ⟨hexplained, hexplained.isDecided_of_eq_nil⟩
  · rw [findings, hfindings, List.forall₂_map_right_iff, List.forall₂_same]
    intro t _
    rw [List.forall₂_map_right_iff, List.forall₂_same]
    rintro ⟨p, d⟩ hmem
    have hp := Turn.getElem?_of_mem_subjects hr hmem
    rw [Registry.alone_eq_outcome hr inv hp]
    exact t.evaluator.explainedUpTo_finding d (Registry.explained_outcome hr inv hp)

/-- The cause of an error lies two extensions away, and a limit of one diagnostic hides another. -/
theorem Turn.runAll_explained_remote :
    let doc : Document := { definitions := [.extending "a" ["b", "c"], .extending "b" ["c", "d"],
      .extending "c" ["missing"], .extending "d" []] }
    let inv : Inventory := ⟨fun _ _ => .ok [], fun _ => .ok none⟩
    let turns : List (Turn (.ofDocument doc)) := [
      ⟨inv, { maxDiagnostics := 1 }, none, .identifier "a"⟩,
      ⟨inv, { cacheResults := false }, some .closed, .everything⟩]
    (∀ t ∈ turns, t.inventory = inv) ∧
      (Registry.ofDocument doc).Stored
          (fun _ o => Explained o.status o.diagnostics ∧ (o.diagnostics = [] → o.status.IsDecided))
          (Turn.reached turns) ∧
        List.Forall₂
          (fun t fs => List.Forall₂
            (fun s f => f.ExplainedUpTo t.settings.maxDiagnostics
              ((Registry.ofDocument doc).alone inv s.1 s.2).diagnostics)
            t.subjects fs)
          turns (Turn.findings turns) := by
  intro doc inv turns
  have hinv : ∀ t ∈ turns, t.inventory = inv := by simp [turns]
  exact ⟨hinv, Turn.runAll_explained doc inv turns hinv⟩

end Oval
