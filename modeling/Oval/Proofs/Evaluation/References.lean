import Oval.Evaluator
import Oval.Proofs.Registry.Extension

/-! # The references that a walk looks up

The search for cycles collects the references of a tree beforehand; the walk of the tree looks them
up one by one while it asks the leaves.  If each look-up is noted, the notes are the references that
were collected, in the same order, and apart from the notes the walk is the same.
-/
namespace Oval

section Noting

variable {m : Type → Type} [Monad m]

/-- The same leaves, but an extend leaf notes its reference before it looks it up. -/
def Leaves.noting (leaves : Leaves m) : Leaves (StateT (List String) m) where
  childless := StateT.lift leaves.childless
  criterion testRef := StateT.lift (leaves.criterion testRef)
  extend definitionRef := do
    modify (· ++ [definitionRef])
    StateT.lift (leaves.extend definitionRef)

variable [LawfulMonad m] (leaves : Leaves m)

theorem Leaves.answer_noting (l : Leaf) (noted : List String) :
    (leaves.noting.answer l).run noted =
      (fun status => (status, noted ++ l.definitionRef?.toList)) <$> leaves.answer l := by
  cases l <;> simp [Leaves.answer, noting, Leaf.definitionRef?]

theorem Leaves.mapM_answer_noting (ls : List Leaf) (noted : List String) :
    (ls.mapM leaves.noting.answer).run noted =
      (fun statuses => (statuses, noted ++ ls.filterMap Leaf.definitionRef?)) <$>
        ls.mapM leaves.answer := by
  induction ls generalizing noted with
  | nil => simp
  | cons l r ih =>
    have hnotes : (l :: r).filterMap Leaf.definitionRef? =
        l.definitionRef?.toList ++ r.filterMap Leaf.definitionRef? := by
      cases l <;> rfl
    simp [List.mapM_cons, answer_noting, ih, hnotes]

/-- The walk of a tree notes the references that are collected from it, whatever its leaves answer
and whatever its operators and negations are. -/
theorem Node.status_noting (n : Node) (noted : List String) :
    (n.status leaves.noting).run noted =
      (fun status => (status, noted ++ n.extendRefs)) <$> n.status leaves := by
  rw [status_eq_mapM_leafList, status_eq_mapM_leafList, extendRefs_eq_filterMap]
  simp [Leaves.mapM_answer_noting]

end Noting

namespace Evaluator

/-- Looks a reference up and notes it. -/
def lookUp (e : Evaluator) (ref : String) :
    StateT (List String) Step (Option (Nat × Definition)) := do
  modify (· ++ [ref])
  pure (e.registry.definition? ref)

/-- The references that the walk of a tree looks up for the definition that owns it, in order.  What
is looked up for the definitions found is not among them. -/
def lookUps (e : Evaluator) (nested : Nat × Definition → Step Status) (definitionId : String)
    (n : Node) (w : Walk) : List String :=
  (n.status (e.leaves nested definitionId).noting [] w).value.1.2

variable (e : Evaluator) (nested : Nat × Definition → Step Status) (definitionId : String)
  (n : Node)

/-- An extend leaf notes its reference where it looks it up. -/
theorem extend_noting (ref : String) :
    (e.leaves nested definitionId).noting.extend ref = (do
      match ← e.lookUp ref with
      | some found => StateT.lift (nested found)
      | none => StateT.lift do
        Step.report (.unknownDefinition definitionId ref)
        Step.record (.error definitionId ("unresolved definition reference: " ++ ref))
        pure .error) := by
  simp only [Leaves.noting, leaves, lookUp, extendStatus, bind_assoc, pure_bind]
  cases e.registry.definition? ref <;> rfl

theorem status_noting_eq (w : Walk) :
    let plain := n.status (e.leaves nested definitionId) w
    n.status (e.leaves nested definitionId).noting [] w =
      ⟨((plain.value.1, n.extendRefs), plain.value.2), plain.effects⟩ := by
  have hnoting := congrFun (Node.status_noting (e.leaves nested definitionId) n []) w
  refine hnoting.trans (Traced.ext rfl ?_)
  exact List.append_nil _

theorem lookUps_eq (w : Walk) : e.lookUps nested definitionId n w = n.extendRefs := by
  rw [lookUps, status_noting_eq]

theorem status_congr_of_definition? {e e' : Evaluator}
    (hcriterion : e'.criterionStatus definitionId = e.criterionStatus definitionId)
    (h : ∀ ref ∈ n.extendRefs, e'.registry.definition? ref = e.registry.definition? ref) :
    n.status (e'.leaves nested definitionId) = n.status (e.leaves nested definitionId) := by
  apply Node.status_congr
  intro l hl
  cases l with
  | childless => simp only [Leaves.answer, leaves]
  | criterion testRef => exact congrFun hcriterion testRef
  | extend ref =>
    have href : ref ∈ n.extendRefs :=
      (Node.mem_extendRefs_iff n ref).mpr ((Node.extend_mem_leafList_iff n ref).mp hl)
    simp only [Leaves.answer, leaves, extendStatus, h ref href]

/-- An extend leaf notes its reference where it looks it up.  Noting the look-ups changes neither
status nor state nor effects of the walk of a tree, and what is noted are the references that are
collected from it, in order: for every evaluator, whatever the definitions found answer, whoever
owns the tree, and from every state.  A walk looks up nothing else, as it is the same if other
references find other definitions.  And the search for cycles goes from a definition to what its own
walk looks up. -/
theorem same_references_seen :
    (∀ (e : Evaluator) (nested : Nat × Definition → Step Status) (definitionId : String) (n : Node),
      (∀ ref, (e.leaves nested definitionId).noting.extend ref = (do
        match ← e.lookUp ref with
        | some found => StateT.lift (nested found)
        | none => StateT.lift do
          Step.report (.unknownDefinition definitionId ref)
          Step.record (.error definitionId ("unresolved definition reference: " ++ ref))
          pure .error)) ∧
      (∀ w,
        let plain := n.status (e.leaves nested definitionId) w
        let noting := n.status (e.leaves nested definitionId).noting [] w
        noting.value.1.1 = plain.value.1 ∧ noting.value.2 = plain.value.2 ∧
          noting.effects = plain.effects ∧ e.lookUps nested definitionId n w = n.extendRefs) ∧
      ∀ definitions definitionIndex,
        let r : Registry := { e.registry with definitions, definitionIndex }
        (∀ ref ∈ n.extendRefs, r.definition? ref = e.registry.definition? ref) →
        n.status (leaves { e with registry := r } nested definitionId) =
          n.status (e.leaves nested definitionId)) ∧
    ∀ (doc : Document) (p : Fin doc.definitions.length) (inv : Inventory) (settings : Settings)
      (nested : Nat × Definition → Step Status) (w : Walk),
      let r := Registry.ofDocument doc
      let d := doc.definitions[p]
      (Registry.extendGraph doc.definitions r.definitionIndex).targets p =
        (lookUps ⟨r, inv, settings⟩ nested d.id d.criteria.node w).filterMap fun ref =>
          (r.definition? ref).map Prod.fst := by
  constructor
  · intro e nested definitionId n
    refine ⟨extend_noting e nested definitionId, fun w => ?_, fun definitions index h => ?_⟩
    · rw [status_noting_eq]
      exact ⟨rfl, rfl, rfl, lookUps_eq e nested definitionId n w⟩
    · exact status_congr_of_definition? nested definitionId n rfl h
  · intro doc p inv settings nested w r d
    have hp : doc.definitions[p.val]? = some d := List.getElem?_eq_getElem p.isLt
    have htargets := Registry.targets_extendGraph doc p
    rw [hp] at htargets
    rw [lookUps_eq]
    exact htargets

/-- An identifier that the tree does not refer to may as well find the first definition. -/
theorem same_references_seen_renamed :
    let n : Node := .group .or true none [.extend "base" false none, .extend "missing" true none]
    let e : Evaluator :=
      { registry := .ofDocument { definitions := [.extending "base" []] }
        inventory := StaticInventory.toInventory {} }
    let definitions := e.registry.definitions
    let definitionIndex := e.registry.definitionIndex.insertNew "other" 0
    let r : Registry := { e.registry with definitions, definitionIndex }
    (∀ ref ∈ n.extendRefs, r.definition? ref = e.registry.definition? ref) ∧
      ∀ nested, n.status (leaves { e with registry := r } nested "top") =
        n.status (e.leaves nested "top") := by
  intro n e definitions definitionIndex r
  have hrefs : ∀ ref ∈ n.extendRefs, r.definition? ref = e.registry.definition? ref := by
    intro ref href
    have hother : ref ≠ "other" := by
      rintro rfl
      exact absurd href (by decide)
    have hfind : definitionIndex.find? ref = e.registry.definitionIndex.find? ref := by
      rw [Index.find?_insertNew, if_neg hother, Option.or_none]
    rw [Registry.definition?, Registry.definition?, hfind]
  refine ⟨hrefs, fun nested => ?_⟩
  exact (same_references_seen.1 e nested "top" n).2.2 definitions definitionIndex hrefs

/-- A reference that occurs twice is looked up twice.  Groups without children look up nothing. -/
example :
    let n : Node :=
      .group .or true none
        [.extend "base" false none, .group .and true none [],
          .group .and false none [.criterion "package" false none, .extend "missing" true none],
          .extend "base" true none]
    let e : Evaluator :=
      { registry := .ofDocument { definitions := [.extending "base" []] }
        inventory := StaticInventory.toInventory {} }
    e.lookUps (e.nestedStatus 1 []) "top" n { outcomes := .fresh 1 } =
      ["base", "missing", "base"] := by
  decide +kernel

end Evaluator
end Oval
