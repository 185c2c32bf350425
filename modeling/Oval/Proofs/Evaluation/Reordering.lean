import Oval.Proofs.Evaluation.DiagnosticGroups
import Oval.Proofs.Evaluation.Rewriting

/-! # Children in another order

Another order of children changes the order of visits, and so which merge brings a shared group
along.  It does not change what is collected: a definition has its own diagnostics and, once each,
the groups that its visits lead to.  Both are the same up to their order, and the status does not
depend on the order at all.
-/
namespace Oval

open Diagnostic (about)

theorem Diagnostic.count_about (ds : List Diagnostic) (x : Diagnostic) :
    (about ds x.definitionId).count x = ds.count x :=
  List.count_filter (by simp)

namespace Registry

/-- The context after some errands: a diagnostic is counted among those that the errands leave
themselves and in the group of its definition, if the visits lead there.  The groups that they lead
to are marked. -/
structure Tallied (r : Registry) (inv : Inventory) (errands : List Errand) (c : Context) :
    Prop where
  count (x : Diagnostic) : c.recorded.count x =
    (errands.filterMap Errand.diagnostic?).count x +
      (r.group inv (Visited errands) x.definitionId).count x
  merged (y : String) : y ∈ c.merged ↔ r.group inv (Visited errands) y ≠ []

variable {r r' : Registry} {inv : Inventory} {errands : List Errand} {c : Context}

theorem tallied_nil : r.Tallied inv [] {} where
  count x := by simp [group_visited_nil]
  merged y := by simp [group_visited_nil]

theorem Tallied.note (h : r.Tallied inv errands c) (status : Status)
    (diagnostic : Option Diagnostic) (effects : List Effect) :
    r.Tallied inv (errands ++ [.settled status diagnostic effects]) (c.note diagnostic) := by
  constructor
  · intro x
    rw [visited_append_settled, List.filterMap_append, List.count_append]
    cases diagnostic with
    | none => exact h.count x
    | some d =>
      change (c.record d).recorded.count x = _
      rw [Context.recorded_record, List.count_append, h.count]
      exact Nat.add_right_comm _ _ _
  · intro y
    rw [visited_append_settled, ← h.merged]
    cases diagnostic <;> rfl

theorem Tallied.merge (h : r.Tallied inv errands c) {q : Nat} (d : Definition)
    {ds : List Diagnostic} (hds : ∀ y, about ds y = r.group inv (· = q) y) :
    r.Tallied inv (errands ++ [.visit q d]) (c.merge ds) := by
  constructor
  · intro x
    have hown : (errands ++ [Errand.visit q d]).filterMap Errand.diagnostic? =
        errands.filterMap Errand.diagnostic? := by
      rw [List.filterMap_append]
      exact List.append_nil _
    rw [Context.recorded_merge, List.count_append, h.count, ← Diagnostic.count_about (c.fresh ds),
      Context.about_fresh, hds, hown, visited_append_visit, group_or, Nat.add_assoc]
    by_cases hnil : r.group inv (Visited errands) x.definitionId = []
    · have hmem : x.definitionId ∉ c.merged := fun hmem => (h.merged _).mp hmem hnil
      rw [if_neg hmem, if_pos hnil, hnil, List.count_nil, Nat.zero_add]
    · rw [if_pos ((h.merged _).mpr hnil), if_neg hnil, List.count_nil, Nat.add_zero]
  · intro y
    rw [Context.merged_merge, List.mem_append, ← Diagnostic.about_ne_nil_iff, hds, h.merged,
      visited_append_visit, group_or]
    by_cases hnil : r.group inv (Visited errands) y = [] <;> simp [hnil]

theorem tallied_foldl (answer : Definition → Outcome) (errands : List Errand)
    (hvisit : ∀ q d, .visit q d ∈ errands →
      ∀ y, about (answer d).diagnostics y = r.group inv (· = q) y) :
    r.Tallied inv errands (errands.foldl (Errand.addTo answer) {}) := by
  induction errands using List.reverseRecOn with
  | nil => exact tallied_nil
  | append_singleton errands x ih =>
    have hbefore := ih fun q d hq => hvisit q d (List.mem_append_left _ hq)
    rw [List.foldl_append, List.foldl_cons, List.foldl_nil]
    cases x with
    | settled status diagnostic effects => exact hbefore.note status diagnostic effects
    | visit q d =>
      exact hbefore.merge d (hvisit q d (List.mem_append_right _ (List.mem_singleton_self _)))

/-- The diagnostics of any definition, counted: its own, and the groups that its visits lead to. -/
theorem count_outcome (hr : r.WellFormed) {p : Nat} {d : Definition}
    (hp : r.definitions[p]? = some d) (x : Diagnostic) :
    (r.outcome inv d).diagnostics.count x =
      (r.own inv d).count x + (r.group inv (r.Follows p) x.definitionId).count x := by
  have hvisit (q : Nat) (d' : Definition) (hq : .visit q d' ∈ r.plan inv d) :
      ∀ y, about (r.outcome inv d').diagnostics y = r.group inv (· = q) y := by
    obtain ⟨-, ref, -, href⟩ := visit_mem_plan_iff.mp hq
    apply about_outcome hr
    rw [hr.id_of_definition? href]
    exact href
  have hvisited : Visited (r.plan inv d) = r.Follows p := by
    funext q
    exact propext (follows_iff_visit hp).symm
  rw [outcome_eq hr hp, own_eq_filterMap_plan, ← hvisited]
  exact (tallied_foldl (r.outcome inv) (r.plan inv d) hvisit).count x

theorem status_outcomeFrom (answer : Definition → Outcome) (d : Definition) :
    (r.outcomeFrom inv answer d).status =
      if r.isCyclic d.id then .error
      else d.criteria.node.valued fun l => (r.errand inv d.id l).statusFrom answer := by
  simp only [outcomeFrom, conclude, plan]
  split
  · rfl
  · rw [List.map_map]
    rfl

namespace Revised

theorem leafDiagnostic?_eq {P : Node → Node → Prop} (h : r.Revised P r') (definitionId : String)
    (l : Leaf) :
    r.leafDiagnostic? inv definitionId l = r'.leafDiagnostic? inv definitionId l := by
  cases l with
  | childless => rfl
  | criterion testRef => simp only [leafDiagnostic?, h.test?_eq, h.assess_eq]
  | extend ref =>
    rcases h.lookup ref with ⟨p, d, d', hfind, hfind', -⟩ | ⟨hnone, hnone'⟩
    · simp only [leafDiagnostic?, hfind, hfind', Option.isNone_some]
    · simp only [leafDiagnostic?, hnone, hnone']

variable (h : r.Revised Node.Shuffled r')
include h

theorem own_perm {d d' : Definition} (hd : d.Revised Node.Shuffled d') :
    (r.own inv d).Perm (r'.own inv d') := by
  have hleaves : r.leafDiagnostic? inv d.id = r'.leafDiagnostic? inv d.id :=
    funext (h.leafDiagnostic?_eq d.id)
  rw [own, own, hleaves, h.isCyclic_eq, hd.id_eq]
  split
  · exact .refl _
  · exact hd.criteria.leafList_perm.filterMap _

theorem follows_iff (p q : Nat) : r.Follows p q ↔ r'.Follows p q := by
  have hfinds (ref : String) :
      (∃ c, r.definition? ref = some (q, c)) ↔ ∃ c, r'.definition? ref = some (q, c) := by
    rcases h.lookup ref with ⟨p, d, d', hfind, hfind', -⟩ | ⟨hnone, hnone'⟩
    · simp [hfind, hfind']
    · simp [hnone, hnone']
  rcases h.position p with ⟨d, d', hp, hp', hd⟩ | ⟨hnone, hnone'⟩
  · have hnames := Node.names_iff_of_leafList_perm hd.criteria.leafList_perm
    simp only [Follows, hp, hp', Option.some.injEq, exists_eq_left', exists_and_left, hfinds,
      hnames, h.isCyclic_eq, hd.id_eq]
  · simp [Follows, hnone, hnone']

theorem leads_iff (p q : Nat) : r.Leads p q ↔ r'.Leads p q := by
  have hfollows : r.Follows = r'.Follows := by
    funext p q
    exact propext (h.follows_iff p q)
  rw [Leads, Leads, hfollows]

theorem group_perm (inv : Inventory) (starts : Nat → Prop) (y : String) :
    (r.group inv starts y).Perm (r'.group inv starts y) := by
  rcases h.lookup y with ⟨q, d, d', hfind, hfind', hd⟩ | ⟨hnone, hnone'⟩
  · have hsame : (∃ p, starts p ∧ r.Leads p q) ↔ ∃ p, starts p ∧ r'.Leads p q := by
      simp only [h.leads_iff]
    by_cases hleads : ∃ p, starts p ∧ r.Leads p q
    · rw [group_of_leads hfind hleads, group_of_leads hfind' (hsame.mp hleads)]
      exact h.own_perm hd
    · rw [group_of_not_leads hfind hleads, group_of_not_leads hfind' (mt hsame.mpr hleads)]
  · simp only [group, hnone, hnone']
    exact .refl _

/-- The diagnostics are the same up to their order, whichever visit brings a group along. -/
theorem diagnostics_perm (hr : r.WellFormed) (hr' : r'.WellFormed) {p : Nat} {d d' : Definition}
    (hp : r.definitions[p]? = some d) (hp' : r'.definitions[p]? = some d') :
    (r.outcome inv d).diagnostics.Perm (r'.outcome inv d').diagnostics := by
  have hfollows : r.Follows p = r'.Follows p := by
    funext q
    exact propext (h.follows_iff p q)
  rw [List.perm_iff_count]
  intro x
  rw [count_outcome hr hp, count_outcome hr' hp', hfollows,
    (h.own_perm (h.getElem? hp hp')).count_eq, (h.group_perm inv _ _).count_eq]

theorem statusFrom_errand_eq (hr' : r'.WellFormed) {answer answer' : Definition → Outcome}
    (definitionId : String) {l : Leaf}
    (hanswer : ∀ q d d', r.errand inv definitionId l = .visit q d → r'.definitions[q]? = some d' →
      (answer d).status = (answer' d').status) :
    (r.errand inv definitionId l).statusFrom answer =
      (r'.errand inv definitionId l).statusFrom answer' := by
  cases l with
  | childless => rfl
  | criterion testRef =>
    simp only [errand, criterionErrand, h.test?_eq, h.assess_eq]
    split
    · rfl
    · split <;> rfl
  | extend ref =>
    rcases h.lookup ref with ⟨q, d, d', hfind, hfind', -⟩ | ⟨hnone, hnone'⟩
    · have hvisit : r.errand inv definitionId (.extend ref) = .visit q d := by
        simp only [errand, extendErrand, hfind]
      have hvisit' : r'.errand inv definitionId (.extend ref) = .visit q d' := by
        simp only [errand, extendErrand, hfind']
      rw [hvisit, hvisit']
      exact hanswer q d d' hvisit (hr'.getElem?_of_definition? hfind')
    · simp only [errand, extendErrand, hnone, hnone', Errand.statusFrom]

/-- The status does not depend on the order of children, here or where visits lead. -/
theorem status_eq (hr : r.WellFormed) (hr' : r'.WellFormed) {p : Nat} {d d' : Definition}
    (hp : r.definitions[p]? = some d) (hp' : r'.definitions[p]? = some d') :
    (r.outcome inv d).status = (r'.outcome inv d').status := by
  refine visit_induction hr inv (motive := fun p d => ∀ d', r'.definitions[p]? = some d' →
    (r.outcome inv d).status = (r'.outcome inv d').status) ?_ hp d' hp'
  intro p d hp ih d' hp'
  have hd := h.getElem? hp hp'
  rw [outcome_eq hr hp, outcome_eq hr' hp', status_outcomeFrom, status_outcomeFrom, h.isCyclic_eq,
    hd.id_eq]
  split
  · rfl
  · rename_i hcyclic
    rw [hd.criteria.valued_eq, Node.valued, Node.valued]
    congr 1
    apply List.map_congr_left
    intro l hl
    apply h.statusFrom_errand_eq hr' d'.id
    intro q c c' hvisit hc'
    apply ih q c _ c' hc'
    rw [plan, h.isCyclic_eq, hd.id_eq, if_neg hcyclic, ← hvisit]
    exact List.mem_map_of_mem (hd.criteria.leafList_perm.mem_iff.mpr hl)

theorem forall₂_positions :
    List.Forall₂ (fun found found' => found.1 = found'.1 ∧
        r.definitions[found.1]? = some found.2 ∧ r'.definitions[found.1]? = some found'.2)
      (numbered r.definitions) (numbered r'.definitions) := by
  have hnumbered := Registry.forall₂_numbered h.definitions
  apply List.forall₂_iff_zip.mpr ⟨hnumbered.length_eq, ?_⟩
  rintro ⟨p, d⟩ ⟨p', d'⟩ hmem
  obtain ⟨rfl, -⟩ := List.forall₂_zip hnumbered hmem
  obtain ⟨hleft, hright⟩ := List.of_mem_zip hmem
  exact ⟨rfl, mem_numbered_iff.mp hleft, mem_numbered_iff.mp hright⟩

end Revised
end Registry

/-- The findings are about one definition and have one status, and as many diagnostics.  If the
limit leaves these whole, they are the same up to their order. -/
structure Finding.Reordered (limit : Nat) (f f' : Finding) : Prop where
  definitionId_eq : f.definitionId = f'.definitionId
  title_eq : f.title = f'.title
  status_eq : f.status = f'.status
  length_eq : f.diagnostics.length = f'.diagnostics.length
  perm : f.diagnostics.length ≤ limit → f.diagnostics.Perm f'.diagnostics

namespace Evaluator

/-- Evaluators that report the same from an empty store, up to the order of diagnostics: about each
definition for itself, with all diagnostics and as a finding, and about all of them in a pass. -/
structure SameUpToOrder (e e' : Evaluator) : Prop where
  definitionCount_eq : e.registry.definitionCount = e'.registry.definitionCount
  isCyclic_eq (id : String) : e.registry.isCyclic id = e'.registry.isCyclic id
  definitionStatus {p : Nat} {d d' : Definition} :
    e.registry.definitions[p]? = some d → e'.registry.definitions[p]? = some d' →
      let all := (e.definitionStatus p d { outcomes := .fresh e.registry.definitionCount }).value.1
      let all' :=
        (e'.definitionStatus p d' { outcomes := .fresh e'.registry.definitionCount }).value.1
      all.1 = all'.1 ∧ all.2.Perm all'.2
  evaluateAt (sink : Option Sink) {p : Nat} {d d' : Definition} :
    e.registry.definitions[p]? = some d → e'.registry.definitions[p]? = some d' →
      (e.evaluateAt sink p d (.fresh e.registry.definitionCount)).value.1.Reordered
        e.settings.maxDiagnostics
        (e'.evaluateAt sink p d' (.fresh e'.registry.definitionCount)).value.1
  evaluateAll (sink : Option Sink) :
    List.Forall₂ (Finding.Reordered e.settings.maxDiagnostics)
      (e.evaluateAll sink (.fresh e.registry.definitionCount)).value.1
      (e'.evaluateAll sink (.fresh e'.registry.definitionCount)).value.1

theorem definitionStatus_fresh {e : Evaluator} (hr : e.registry.WellFormed) {p : Nat}
    {d : Definition} (hp : e.registry.definitions[p]? = some d) (count : Nat) :
    let o := e.registry.outcome e.inventory d
    (e.definitionStatus p d { outcomes := .fresh count }).value.1 = (o.status, o.diagnostics) := by
  intro o
  obtain ⟨status, w, effects, hrun, hwalked⟩ := walked_definitionStatus hr hp (.fresh count)
  have htrust : e.Trusts (.fresh count) := trusts_of_consistent (Registry.consistent_fresh count)
  have houtcome : (⟨status, w.context.recorded⟩ : Outcome) = o :=
    (hwalked.eq_outcome hr hp htrust).1
  rw [hrun, ← houtcome]

theorem evaluateAt_fresh {e : Evaluator} (hr : e.registry.WellFormed) (sink : Option Sink) {p : Nat}
    {d : Definition} (hp : e.registry.definitions[p]? = some d) (count : Nat) :
    (e.evaluateAt sink p d (.fresh count)).value.1 =
      e.finding d (e.registry.outcome e.inventory d) :=
  (ensures_evaluateAt_outcome hr sink hp _ (Registry.consistent_fresh count)).1

theorem evaluateAll_fresh {e : Evaluator} (hr : e.registry.WellFormed) (sink : Option Sink)
    (count : Nat) :
    (e.evaluateAll sink (.fresh count)).value.1 =
      (Registry.numbered e.registry.definitions).map fun s =>
        e.finding s.2 (e.registry.outcome e.inventory s.2) := by
  have hrun : e.evaluateAll sink = (Registry.numbered e.registry.definitions).mapM
      fun s : Nat × Definition => e.evaluateAt sink s.1 s.2 := rfl
  have hpass := Session.ensures_mapM (Registry.numbered e.registry.definitions) fun s hs =>
    ensures_evaluateAt_outcome hr sink (Registry.mem_numbered_iff.mp hs)
  rw [hrun]
  exact eq_map_of_forall₂ (hpass _ (Registry.consistent_fresh count)).1

section Shuffled

variable {r r' : Registry} {p : Nat} {d d' : Definition}

theorem reordered_finding (h : r.Revised Node.Shuffled r') (hr : r.WellFormed)
    (hr' : r'.WellFormed) (inv : Inventory) (settings : Settings)
    (hp : r.definitions[p]? = some d) (hp' : r'.definitions[p]? = some d') :
    (finding ⟨r, inv, settings⟩ d (r.outcome inv d)).Reordered settings.maxDiagnostics
      (finding ⟨r', inv, settings⟩ d' (r'.outcome inv d')) := by
  have hd := h.getElem? hp hp'
  have hperm : (r.outcome inv d).diagnostics.Perm (r'.outcome inv d').diagnostics :=
    h.diagnostics_perm hr hr' hp hp'
  exact {
    definitionId_eq := hd.id_eq
    title_eq := congrArg Metadata.title hd.metadata_eq
    status_eq := h.status_eq hr hr' hp hp'
    length_eq := Context.length_cut_eq_of_perm _ hperm
    perm := Context.cut_perm hperm }

end Shuffled

theorem sameUpToOrder_shuffle {doc doc' : Document} (h : doc.Rewritten Node.IsShuffle doc')
    (inv : Inventory) (settings : Settings) :
    SameUpToOrder ⟨.ofDocument doc, inv, settings⟩ ⟨.ofDocument doc', inv, settings⟩ := by
  have hr := Registry.wellFormed_ofDocument doc
  have hr' := Registry.wellFormed_ofDocument doc'
  have hrevised := Registry.revised_ofDocument h Node.Shuffled.refl
    (fun _ _ hnode => hnode.shuffled fun _ _ => Node.IsShuffle.shuffled)
    fun _ _ hshuffled => hshuffled.leafList_perm
  refine ⟨hrevised.definitionCount_eq, hrevised.isCyclic_eq, ?_, ?_, ?_⟩
  · intro p d d' hp hp' all all'
    have hall : all = _ := definitionStatus_fresh hr hp _
    have hall' : all' = _ := definitionStatus_fresh hr' hp' _
    rw [hall, hall']
    exact ⟨hrevised.status_eq hr hr' hp hp', hrevised.diagnostics_perm hr hr' hp hp'⟩
  · intro sink p d d' hp hp'
    rw [evaluateAt_fresh hr sink hp, evaluateAt_fresh hr' sink hp']
    exact reordered_finding hrevised hr hr' inv settings hp hp'
  · intro sink
    rw [evaluateAll_fresh hr, evaluateAll_fresh hr', List.forall₂_map_left_iff,
      List.forall₂_map_right_iff]
    apply hrevised.forall₂_positions.imp
    rintro ⟨p, d⟩ ⟨_, d'⟩ ⟨rfl, hp, hp'⟩
    exact reordered_finding hrevised hr hr' inv settings hp hp'

/-- Two ways to rewrite a group.  No request notices if it takes over the children of a nested group
of its operator that is not negated and has children.  If its own children change their places, no
status changes, and diagnostics at most their order. -/
theorem flattening_and_reordering (doc : Document) (inv : Inventory) (settings : Settings) :
    (∀ spliced : Document, doc.Rewritten Node.IsSplice spliced →
      Indistinguishable ⟨.ofDocument doc, inv, settings⟩ ⟨.ofDocument spliced, inv, settings⟩) ∧
    ∀ shuffled : Document, doc.Rewritten Node.IsShuffle shuffled →
      SameUpToOrder ⟨.ofDocument doc, inv, settings⟩ ⟨.ofDocument shuffled, inv, settings⟩ := by
  constructor
  · intro spliced h
    exact indistinguishable_of_rewritten (fun _ _ => Node.IsSplice.sameWalk) h inv settings
  · intro shuffled h
    exact sameUpToOrder_shuffle h inv settings

/-- Two ways lead to the definition `c`, which has no children.  In the other order it is a visit to
`b` that brings its warning along. -/
theorem flattening_and_reordering_diamond :
    let b : Node := .extend "b" false none
    let c : Node := .extend "c" true none
    let gone : Node := .criterion "gone" false none
    let empty : Node := .group .or true none []
    let root (node : Node) : Definition := { id := "root", criteria := ⟨.or, false, none, [node]⟩ }
    let document (node : Node) : Document :=
      { definitions := [root node, .extending "b" ["gone", "c"], .extending "c" []] }
    let doc := document (.group .and true none [c, .group .and false none [gone, empty], b])
    let spliced := document (.group .and true none [c, gone, empty, b])
    let shuffled := document (.group .and true none [b, .group .and false none [gone, empty], c])
    let inv : Inventory := ⟨fun _ _ => .ok [], fun _ => .ok none⟩
    let diagnosed (doc : Document) : List (List String) :=
      (evaluateAll ⟨.ofDocument doc, inv, {}⟩ none (.fresh 3)).value.1.map fun f =>
        f.diagnostics.map Diagnostic.definitionId
    doc.Rewritten Node.IsSplice spliced ∧ doc.Rewritten Node.IsShuffle shuffled ∧
      diagnosed doc = [["c", "root", "root", "b"], ["b", "c"], ["c"]] ∧
      diagnosed shuffled = [["b", "c", "root", "root"], ["b", "c"], ["c"]] ∧
      Indistinguishable ⟨.ofDocument doc, inv, {}⟩ ⟨.ofDocument spliced, inv, {}⟩ ∧
      SameUpToOrder ⟨.ofDocument doc, inv, {}⟩ ⟨.ofDocument shuffled, inv, {}⟩ := by
  intro b c gone empty root document doc spliced shuffled inv diagnosed
  have hspliced : doc.Rewritten Node.IsSplice spliced :=
    .intro doc [] [.extending "b" ["gone", "c"], .extending "c" []] _
      (root (.group .and true none [c, gone, empty, b])).criteria
      (.child [] [] (.here (.intro .and true none none [c] [gone, empty] [b]
        (List.cons_ne_nil _ _))))
  have hshuffled : doc.Rewritten Node.IsShuffle shuffled := by
    have hperm : [c, .group .and false none [gone, empty], b].Perm
        [b, .group .and false none [gone, empty], c] := (List.reverse_perm _).symm
    exact .intro doc [] [.extending "b" ["gone", "c"], .extending "c" []] _
      (root (.group .and true none [b, .group .and false none [gone, empty], c])).criteria
      (.child [] [] (.here (.intro .and true none hperm)))
  have hbefore : diagnosed doc = [["c", "root", "root", "b"], ["b", "c"], ["c"]] := by
    dsimp only [diagnosed, doc, document, root, b, c, gone, empty, inv]
    decide +kernel
  have hafter : diagnosed shuffled = [["b", "c", "root", "root"], ["b", "c"], ["c"]] := by
    dsimp only [diagnosed, shuffled, document, root, b, c, gone, empty, inv]
    decide +kernel
  obtain ⟨hsplice, hshuffle⟩ := flattening_and_reordering doc inv {}
  exact ⟨hspliced, hshuffled, hbefore, hafter, hsplice spliced hspliced,
    hshuffle shuffled hshuffled⟩

end Evaluator
end Oval
