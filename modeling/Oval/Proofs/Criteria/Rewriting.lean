import Mathlib.Data.List.Perm.Basic
import Oval.Proofs.Criteria.Combination
import Oval.Proofs.Criteria.Leaf

/-! # Rewriting criteria trees

A tree is rewritten by replacing one node, anywhere in it.  A node may be replaced by its dual, a
group may take over the children of a nested group, and the children of a group may change their
places.  The first two leave every walk as it is; the last asks the same leaves in another order
and comes to the same status.
-/
namespace Oval

/-- Negation leaves the answer for a group without children as it is. -/
def Leaves.Undecided {m : Type → Type} [Monad m] (leaves : Leaves m) : Prop :=
  ∀ negate, Status.negateIf negate <$> leaves.childless = leaves.childless

namespace Node

def flip : Node → Node
  | group operator negate comment children => group operator (!negate) comment children
  | criterion testRef negate comment => criterion testRef (!negate) comment
  | extend definitionRef negate comment => extend definitionRef (!negate) comment

/-- The second group is the dual of the first: the other operator, and the negation flags of the
group and of its direct children changed. -/
inductive IsDual : Node → Node → Prop
  | intro (operator : Operator) (negate : Bool) (comment : Option String) (children : List Node) :
    IsDual (.group operator negate comment children)
      (.group operator.dual (!negate) comment (children.map flip))

/-- The second group has the children of a nested group in its place, which has children, the same
operator and no negation. -/
inductive IsSplice : Node → Node → Prop
  | intro (operator : Operator) (negate : Bool) (comment inner : Option String)
    (before children after : List Node) (h : children ≠ []) :
    IsSplice
      (.group operator negate comment (before ++ .group operator false inner children :: after))
      (.group operator negate comment (before ++ children ++ after))

/-- The second group has the children of the first in another order. -/
inductive IsShuffle : Node → Node → Prop
  | intro (operator : Operator) (negate : Bool) (comment : Option String)
    {children children' : List Node} (h : children.Perm children') :
    IsShuffle (.group operator negate comment children) (.group operator negate comment children')

/-- One node of the first tree is replaced in the second, as `R` allows. -/
inductive Rewritten (R : Node → Node → Prop) : Node → Node → Prop
  | here {n n' : Node} (h : R n n') : Rewritten R n n'
  | child {operator : Operator} {negate : Bool} {comment : Option String} {n n' : Node}
    (before after : List Node) (h : Rewritten R n n') :
    Rewritten R (.group operator negate comment (before ++ n :: after))
      (.group operator negate comment (before ++ n' :: after))

theorem leafListOf_eq_flatMap (ns : List Node) : leafListOf ns = ns.flatMap leafList := by
  induction ns with
  | nil => rfl
  | cons n r ih => rw [leafListOf, List.flatMap_cons, ih]

theorem leafList_group {ns : List Node} (h : ns ≠ []) (operator : Operator) (negate : Bool)
    (comment : Option String) :
    (group operator negate comment ns).leafList = ns.flatMap leafList := by
  obtain ⟨n, r, rfl⟩ := List.exists_cons_of_ne_nil h
  exact leafListOf_eq_flatMap (n :: r)

section Walks

variable {m : Type → Type} [Monad m] [LawfulMonad m] (leaves : Leaves m)

theorem status_group {ns : List Node} (h : ns ≠ []) (operator : Operator) (negate : Bool)
    (comment : Option String) :
    status leaves (group operator negate comment ns) =
      (fun ss => (operator.combine ss).negateIf negate) <$> ns.mapM (status leaves) := by
  obtain ⟨n, r, rfl⟩ := List.exists_cons_of_ne_nil h
  rw [status, statuses_eq_mapM, map_eq_pure_bind]

theorem status_flip (n : Node) :
    status leaves n.flip = Status.negateIf true <$> status leaves n := by
  cases n with
  | group operator negate comment children =>
    cases children <;> simp [flip, status]
  | criterion testRef negate comment => simp [flip, status]
  | extend definitionRef negate comment => simp [flip, status]

theorem mapM_status_flip (ns : List Node) :
    (ns.map flip).mapM (status leaves) =
      List.map (Status.negateIf true) <$> ns.mapM (status leaves) := by
  induction ns with
  | nil => simp
  | cons n r ih => simp [status_flip, ih]

end Walks

theorem leafList_flip (n : Node) : n.flip.leafList = n.leafList := by
  cases n with
  | group operator negate comment children => cases children <;> rfl
  | criterion testRef negate comment => rfl
  | extend definitionRef negate comment => rfl

/-- Every walk of the first tree asks the same leaves as that of the second, in the same order, and
comes to the same status. -/
structure SameWalk (n n' : Node) : Prop where
  leafList_eq : n.leafList = n'.leafList
  status_eq {m : Type → Type} [Monad m] [LawfulMonad m] (leaves : Leaves m) :
    leaves.Undecided → status leaves n = status leaves n'

theorem SameWalk.refl (n : Node) : n.SameWalk n := ⟨rfl, fun _ _ => rfl⟩

theorem SameWalk.child {n n' : Node} (h : n.SameWalk n') (operator : Operator) (negate : Bool)
    (comment : Option String) (before after : List Node) :
    (group operator negate comment (before ++ n :: after)).SameWalk
      (group operator negate comment (before ++ n' :: after)) := by
  have hne (x : Node) : before ++ x :: after ≠ [] := by simp
  constructor
  · rw [leafList_group (hne n), leafList_group (hne n'), List.flatMap_append, List.flatMap_append,
      List.flatMap_cons, List.flatMap_cons, h.leafList_eq]
  · intro m _ _ leaves hleaves
    rw [status_group leaves (hne n), status_group leaves (hne n'), List.mapM_append,
      List.mapM_append, List.mapM_cons, List.mapM_cons, h.status_eq leaves hleaves]

theorem IsDual.sameWalk {n n' : Node} (h : n.IsDual n') : n.SameWalk n' := by
  obtain ⟨operator, negate, comment, children⟩ := h
  cases children with
  | nil =>
    refine ⟨rfl, ?_⟩
    intro m _ _ leaves hleaves
    have hgroup (operator : Operator) (negate : Bool) :
        status leaves (.group operator negate comment []) = leaves.childless := by
      rw [status, ← map_eq_pure_bind, hleaves]
    rw [hgroup, List.map_nil, hgroup]
  | cons n r =>
    have hne : n :: r ≠ [] := List.cons_ne_nil n r
    have hne' : (n :: r).map flip ≠ [] := List.cons_ne_nil _ _
    constructor
    · rw [leafList_group hne, leafList_group hne', List.flatMap_map]
      simp only [leafList_flip]
    · intro m _ _ leaves _
      rw [status_group leaves hne, status_group leaves hne', mapM_status_flip, Functor.map_map]
      simp only [Operator.combine_dual_map_negateIf, Status.negateIf_negateIf]
      simp

theorem IsSplice.sameWalk {n n' : Node} (h : n.IsSplice n') : n.SameWalk n' := by
  obtain ⟨operator, negate, comment, inner, before, children, after, hchildren⟩ := h
  have hne : before ++ group operator false inner children :: after ≠ [] := by simp
  have hne' : before ++ children ++ after ≠ [] := by simp [hchildren]
  constructor
  · rw [leafList_group hne, leafList_group hne']
    simp [leafList_group hchildren]
  · intro m _ _ leaves _
    rw [status_group leaves hne, status_group leaves hne', List.mapM_append, List.mapM_append,
      List.mapM_append, List.mapM_cons, status_group leaves hchildren]
    simp only [map_eq_pure_bind, bind_assoc, pure_bind, Status.negateIf_false,
      Operator.combine_append_combine]

theorem Rewritten.sameWalk {R : Node → Node → Prop} (hR : ∀ n n', R n n' → n.SameWalk n')
    {n n' : Node} (h : n.Rewritten R n') : n.SameWalk n' := by
  induction h with
  | here h => exact hR _ _ h
  | child before after _ ih => exact ih.child _ _ _ before after

def valued (f : Leaf → Status) (n : Node) : Status := n.verdict (n.leafList.map f)

theorem verdicts_map_leafListOf (f : Leaf → Status) (ns : List Node) :
    verdicts ns ((leafListOf ns).map f) = ns.map (valued f) := by
  induction ns with
  | nil => rfl
  | cons n r ih =>
    have hlen : (n.leafList.map f).length = n.leafList.length := List.length_map f
    rw [leafListOf, List.map_append, verdicts_cons_append n r hlen, ih]
    rfl

theorem valued_group (f : Leaf → Status) {ns : List Node} (h : ns ≠ []) (operator : Operator)
    (negate : Bool) (comment : Option String) :
    (group operator negate comment ns).valued f =
      (operator.combine (ns.map (valued f))).negateIf negate := by
  obtain ⟨n, r, rfl⟩ := List.exists_cons_of_ne_nil h
  rw [valued, leafList, verdict, verdicts_map_leafListOf]

/-- The trees have the same leaves, each as often, and come to the same verdict. -/
structure Shuffled (n n' : Node) : Prop where
  leafList_perm : n.leafList.Perm n'.leafList
  valued_eq (f : Leaf → Status) : n.valued f = n'.valued f

theorem Shuffled.refl (n : Node) : n.Shuffled n := ⟨.refl _, fun _ => rfl⟩

theorem Shuffled.child {n n' : Node} (h : n.Shuffled n') (operator : Operator) (negate : Bool)
    (comment : Option String) (before after : List Node) :
    (group operator negate comment (before ++ n :: after)).Shuffled
      (group operator negate comment (before ++ n' :: after)) := by
  have hne (x : Node) : before ++ x :: after ≠ [] := by simp
  constructor
  · rw [leafList_group (hne n), leafList_group (hne n')]
    simp only [List.flatMap_append, List.flatMap_cons]
    exact (h.leafList_perm.append_right _).append_left _
  · intro f
    rw [valued_group f (hne n), valued_group f (hne n')]
    simp only [List.map_append, List.map_cons, h.valued_eq]

theorem IsShuffle.shuffled {n n' : Node} (h : n.IsShuffle n') : n.Shuffled n' := by
  cases h with
  | @intro operator negate comment children children' hperm =>
    by_cases hne : children = []
    · subst hne
      rw [List.nil_perm.mp hperm]
      exact .refl _
    · have hne' : children' ≠ [] := by
        rintro rfl
        exact hne hperm.eq_nil
      constructor
      · rw [leafList_group hne, leafList_group hne']
        exact hperm.flatMap_right leafList
      · intro f
        rw [valued_group f hne, valued_group f hne', operator.combine_perm (hperm.map (valued f))]

theorem Rewritten.shuffled {R : Node → Node → Prop} (hR : ∀ n n', R n n' → n.Shuffled n')
    {n n' : Node} (h : n.Rewritten R n') : n.Shuffled n' := by
  induction h with
  | here h => exact hR _ _ h
  | child before after _ ih => exact ih.child _ _ _ before after

theorem names_iff_of_leafList_perm {n n' : Node} (h : n.leafList.Perm n'.leafList) (ref : String) :
    n.Names ref ↔ n'.Names ref := by
  rw [← extend_mem_leafList_iff, ← extend_mem_leafList_iff, h.mem_iff]

end Node
end Oval
