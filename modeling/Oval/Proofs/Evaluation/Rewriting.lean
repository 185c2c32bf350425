import Oval.Proofs.Evaluation.Session
import Oval.Proofs.Registry.Revision

/-! # Rewritings that no evaluation notices

If the trees of two registries have the same walks, every evaluation takes the same steps, whatever
the store holds.  So answers, stores and effects are the same: findings, diagnostics in their order
and the questions put to the inventory.
-/
namespace Oval

theorem mapM_eq_of_forall₂ {m : Type → Type} [Monad m] [LawfulMonad m] {α β γ : Type}
    {Q : α → β → Prop} {f : α → m γ} {g : β → m γ} {as : List α} {bs : List β}
    (h : List.Forall₂ Q as bs) (hfg : ∀ a b, Q a b → f a = g b) : as.mapM f = bs.mapM g := by
  induction h with
  | nil => rfl
  | cons hab _ ih => rw [List.mapM_cons, List.mapM_cons, hfg _ _ hab, ih]

namespace Evaluator

/-- Evaluators whose registries cannot be told apart by requests.  From every store an evaluation
gives the same finding, leaves the same store and has the same effects, among them the questions to
the inventory. -/
structure Indistinguishable (e e' : Evaluator) : Prop where
  definitionCount_eq : e.registry.definitionCount = e'.registry.definitionCount
  isCyclic_eq (id : String) : e.registry.isCyclic id = e'.registry.isCyclic id
  evaluateAt_eq (sink : Option Sink) {p : Nat} {d d' : Definition} :
    e.registry.definitions[p]? = some d → e'.registry.definitions[p]? = some d' →
      e.evaluateAt sink p d = e'.evaluateAt sink p d'
  evaluate_eq (sink : Option Sink) (id : String) : e.evaluate sink id = e'.evaluate sink id
  evaluateAll_eq (sink : Option Sink) : e.evaluateAll sink = e'.evaluateAll sink

theorem undecided_leaves (e : Evaluator) (nested : Nat × Definition → Step Status)
    (definitionId : String) : (e.leaves nested definitionId).Undecided := by
  intro negate
  simp [leaves, childlessStatus]

end Evaluator

namespace Registry.Revised

open Evaluator

variable {r r' : Registry} (inv : Inventory) (settings : Settings)

theorem extendStatus_eq {P : Node → Node → Prop} (h : r.Revised P r')
    {nested nested' : Nat × Definition → Step Status}
    (hnested : ∀ p d d', d.Revised P d' → nested (p, d) = nested' (p, d'))
    (definitionId definitionRef : String) :
    extendStatus ⟨r, inv, settings⟩ nested definitionId definitionRef =
      extendStatus ⟨r', inv, settings⟩ nested' definitionId definitionRef := by
  rw [extendStatus, extendStatus]
  rcases h.lookup definitionRef with ⟨p, d, d', hfind, hfind', hd⟩ | ⟨hnone, hnone'⟩
  · simp only [hfind, hfind', hnested p d d' hd]
  · simp only [hnone, hnone']

theorem leaves_eq {P : Node → Node → Prop} (h : r.Revised P r')
    {nested nested' : Nat × Definition → Step Status}
    (hnested : ∀ p d d', d.Revised P d' → nested (p, d) = nested' (p, d'))
    (definitionId : String) :
    leaves ⟨r, inv, settings⟩ nested definitionId =
      leaves ⟨r', inv, settings⟩ nested' definitionId := by
  have hcriterion : criterionStatus ⟨r, inv, settings⟩ definitionId =
      criterionStatus ⟨r', inv, settings⟩ definitionId := by
    funext testRef
    simp only [criterionStatus, h.test?_eq, h.assess_eq]
  have hextend : extendStatus ⟨r, inv, settings⟩ nested definitionId =
      extendStatus ⟨r', inv, settings⟩ nested' definitionId :=
    funext (extendStatus_eq inv settings h hnested definitionId)
  rw [leaves, leaves, hcriterion, hextend]

variable (h : r.Revised Node.SameWalk r')
include h

theorem treeStatus_eq {nested nested' : Nat × Definition → Step Status}
    (hnested : ∀ p d d', d.Revised Node.SameWalk d' → nested (p, d) = nested' (p, d'))
    {d d' : Definition} (hd : d.Revised Node.SameWalk d') :
    treeStatus ⟨r, inv, settings⟩ nested d = treeStatus ⟨r', inv, settings⟩ nested' d' := by
  have hwalk := hd.criteria.status_eq (leaves ⟨r, inv, settings⟩ nested d.id)
    (undecided_leaves _ _ _)
  rw [treeStatus, treeStatus, hwalk, leaves_eq inv settings h hnested, hd.id_eq, h.isCyclic_eq]

/-- To every depth, definitions that have the same walk are evaluated in the same steps. -/
theorem nestedStatus_eq (depth : Nat) (held : List Nat) (p : Nat) {d d' : Definition}
    (hd : d.Revised Node.SameWalk d') :
    nestedStatus ⟨r, inv, settings⟩ depth held (p, d) =
      nestedStatus ⟨r', inv, settings⟩ depth held (p, d') := by
  induction depth generalizing held p d d' with
  | zero => rfl
  | succ depth ih =>
    have htree := treeStatus_eq inv settings h (fun q _ _ hd => ih (p :: held) q hd) hd
    simp only [nestedStatus, htree]
    rfl

theorem evaluateAt_eq (sink : Option Sink) (p : Nat) {d d' : Definition}
    (hd : d.Revised Node.SameWalk d') :
    evaluateAt ⟨r, inv, settings⟩ sink p d = evaluateAt ⟨r', inv, settings⟩ sink p d' := by
  have hstatus : definitionStatus ⟨r, inv, settings⟩ p d =
      definitionStatus ⟨r', inv, settings⟩ p d' := by
    rw [definitionStatus, definitionStatus, h.definitionCount_eq,
      nestedStatus_eq inv settings h _ [] p hd]
  have htitle : d.title = d'.title := congrArg Metadata.title hd.metadata_eq
  funext os
  rw [evaluateAt, evaluateAt, hstatus, hd.id_eq, htitle]

theorem evaluate_eq (sink : Option Sink) (id : String) :
    evaluate ⟨r, inv, settings⟩ sink id = evaluate ⟨r', inv, settings⟩ sink id := by
  rw [evaluate, evaluate]
  rcases h.lookup id with ⟨p, d, d', hfind, hfind', hd⟩ | ⟨hnone, hnone'⟩
  · simp only [hfind, hfind', evaluateAt_eq inv settings h sink p hd]
  · simp only [hnone, hnone']

theorem evaluateAll_eq (sink : Option Sink) :
    evaluateAll ⟨r, inv, settings⟩ sink = evaluateAll ⟨r', inv, settings⟩ sink := by
  apply mapM_eq_of_forall₂ (forall₂_numbered h.definitions)
  rintro ⟨p, d⟩ ⟨_, d'⟩ ⟨rfl, hd⟩
  exact evaluateAt_eq inv settings h sink p hd

end Registry.Revised

namespace Evaluator

theorem indistinguishable_of_rewritten {R : Node → Node → Prop}
    (hR : ∀ n n', R n n' → n.SameWalk n') {doc doc' : Document} (h : doc.Rewritten R doc')
    (inv : Inventory) (settings : Settings) :
    Indistinguishable ⟨.ofDocument doc, inv, settings⟩ ⟨.ofDocument doc', inv, settings⟩ := by
  have hrevised := Registry.revised_ofDocument h Node.SameWalk.refl
    (fun _ _ hnode => hnode.sameWalk hR) fun _ _ hwalk => .of_eq hwalk.leafList_eq
  exact {
    definitionCount_eq := hrevised.definitionCount_eq
    isCyclic_eq := hrevised.isCyclic_eq
    evaluateAt_eq := fun sink p _ _ hp hp' =>
      hrevised.evaluateAt_eq inv settings sink p (hrevised.getElem? hp hp')
    evaluate_eq := hrevised.evaluate_eq inv settings
    evaluateAll_eq := hrevised.evaluateAll_eq inv settings }

/-- No request notices if a node is replaced by its dual, wherever in whichever definition it
stands: findings, diagnostics, cyclic identifiers and questions to the inventory are the same. -/
theorem indistinguishable_dual {doc doc' : Document} (h : doc.Rewritten Node.IsDual doc')
    (inv : Inventory) (settings : Settings) :
    Indistinguishable ⟨.ofDocument doc, inv, settings⟩ ⟨.ofDocument doc', inv, settings⟩ :=
  indistinguishable_of_rewritten (fun _ _ => Node.IsDual.sameWalk) h inv settings

/-- The node is negated and stands in a definition that another extends.  It has an error, an
unknown status and a group without children below it. -/
theorem indistinguishable_dual_nested :
    let test : Test := { id := "t", objectRef := "o" }
    let node : Node := .group .and true none
      [.criterion "gone" false none, .extend "base" true none, .group .or false none []]
    let dual : Node := .group .or false none
      [.criterion "gone" true none, .extend "base" false none, .group .or true none []]
    let shared : Definition :=
      { id := "shared", criteria := ⟨.or, false, none, [.criterion "t" true none, node]⟩ }
    let shared' : Definition :=
      { id := "shared", criteria := ⟨.or, false, none, [.criterion "t" true none, dual]⟩ }
    let doc : Document :=
      { definitions := [.extending "top" ["shared", "loop"], shared, .extending "base" [],
          .extending "loop" ["loop"]]
        tests := { rpminfo := [test] }
        objects := { rpminfo := [⟨"o", "bash"⟩] } }
    let doc' : Document :=
      { doc with definitions := [.extending "top" ["shared", "loop"], shared',
          .extending "base" [], .extending "loop" ["loop"]] }
    let inv : Inventory := ⟨fun _ _ => .ok [⟨"bash", "5.1", none⟩], fun _ => .ok none⟩
    let e : Evaluator := ⟨.ofDocument doc, inv, {}⟩
    let e' : Evaluator := ⟨.ofDocument doc', inv, {}⟩
    doc.Rewritten Node.IsDual doc' ∧
      ((e'.evaluateAll none (.fresh 4)).value.1.map fun f => (f.status, f.diagnostics.length)) =
        [(.error, 4), (.error, 3), (.unknown, 1), (.error, 1)] ∧
      Indistinguishable e e' := by
  intro test node dual shared shared' doc doc' inv e e'
  have hrewritten : doc.Rewritten Node.IsDual doc' :=
    .intro doc [.extending "top" ["shared", "loop"]]
      [.extending "base" [], .extending "loop" ["loop"]] shared shared'.criteria
      (.child [.criterion "t" true none] [] (.here (.intro _ _ _ _)))
  have hfindings : ((e'.evaluateAll none (.fresh 4)).value.1.map
      fun f => (f.status, f.diagnostics.length)) =
        [(.error, 4), (.error, 3), (.unknown, 1), (.error, 1)] := by
    dsimp only [e', doc', doc, shared', dual, test, inv]
    decide +kernel
  exact ⟨hrewritten, hfindings, indistinguishable_dual hrewritten inv {}⟩

end Evaluator
end Oval
