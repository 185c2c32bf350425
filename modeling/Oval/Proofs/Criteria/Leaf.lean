import Oval.Criteria.Status

/-! # A tree as the list of its leaves

The walk of a tree asks every leaf once, in document order, and combines the answers afterwards.
So a walk is a pass over a list of leaves that is known beforehand, followed by a pure verdict;
whatever holds of a pass over a list holds of a walk.
-/
namespace Oval

/-- The end of a branch.  A group without children is one too. -/
inductive Leaf
  | childless
  | criterion (testRef : String)
  | extend (definitionRef : String)
  deriving DecidableEq, Repr

def Leaf.definitionRef? : Leaf → Option String
  | extend definitionRef => some definitionRef
  | _ => none

def Leaves.answer {m : Type → Type} (leaves : Leaves m) : Leaf → m Status
  | .childless => leaves.childless
  | .criterion testRef => leaves.criterion testRef
  | .extend definitionRef => leaves.extend definitionRef

namespace Node

mutual
def leafList : Node → List Leaf
  | group _ _ _ [] => [.childless]
  | group _ _ _ (n :: r) => leafListOf (n :: r)
  | criterion testRef _ _ => [.criterion testRef]
  | extend definitionRef _ _ => [.extend definitionRef]

def leafListOf : List Node → List Leaf
  | [] => []
  | n :: r => leafList n ++ leafListOf r
end

mutual
/-- The status of the node if its leaves have the given statuses, one for each leaf. -/
def verdict : Node → List Status → Status
  | group _ negate _ [], answers => (answers.headD .unknown).negateIf negate
  | group operator negate _ (n :: r), answers =>
    (operator.combine (verdicts (n :: r) answers)).negateIf negate
  | criterion _ negate _, answers => (answers.headD .unknown).negateIf negate
  | extend _ negate _, answers => (answers.headD .unknown).negateIf negate

def verdicts : List Node → List Status → List Status
  | [], _ => []
  | n :: r, answers =>
    verdict n (answers.take (leafList n).length) :: verdicts r (answers.drop (leafList n).length)
end

theorem verdicts_cons_append (n : Node) (r : List Node) {answers : List Status}
    (h : answers.length = (leafList n).length) (more : List Status) :
    verdicts (n :: r) (answers ++ more) = verdict n answers :: verdicts r more := by
  rw [verdicts, ← h, List.take_left, List.drop_left]

mutual
/-- The references that are collected from a tree are those of its extend leaves. -/
theorem extendRefs_eq_filterMap : ∀ n : Node,
    n.extendRefs = n.leafList.filterMap Leaf.definitionRef?
  | group _ _ _ [] => rfl
  | group _ _ _ (n :: r) => extendRefsOf_eq_filterMap (n :: r)
  | criterion .. => rfl
  | extend .. => rfl

theorem extendRefsOf_eq_filterMap : ∀ ns : List Node,
    extendRefsOf ns = (leafListOf ns).filterMap Leaf.definitionRef?
  | [] => rfl
  | n :: r => by
    rw [extendRefsOf, leafListOf, List.filterMap_append, extendRefs_eq_filterMap n,
      extendRefsOf_eq_filterMap r]
end

/-- Some extend leaf anywhere in the tree names the definition. -/
inductive Names (definitionRef : String) : Node → Prop
  | leaf (negate : Bool) (comment : Option String) :
    Names definitionRef (.extend definitionRef negate comment)
  | child {operator : Operator} {negate : Bool} {comment : Option String} {children : List Node}
    {n : Node} (hn : n ∈ children) (h : Names definitionRef n) :
    Names definitionRef (.group operator negate comment children)

theorem Names.mem_extendRefs {ref : String} {n : Node} (h : n.Names ref) :
    ref ∈ n.extendRefs := by
  induction h with
  | leaf => exact List.mem_singleton_self ref
  | child hn _ ih =>
    rw [extendRefs, extendRefsOf_eq_flatMap]
    exact List.mem_flatMap.mpr ⟨_, hn, ih⟩

mutual
theorem names_of_mem_extendRefs {ref : String} : ∀ n : Node, ref ∈ n.extendRefs → n.Names ref
  | group _ _ _ children, h => by
    obtain ⟨n, hn, hnames⟩ := exists_names_of_mem_extendRefsOf children h
    exact .child hn hnames
  | criterion .., h => absurd h List.not_mem_nil
  | extend _ negate comment, h => by
    obtain rfl := List.mem_singleton.mp h
    exact .leaf negate comment

theorem exists_names_of_mem_extendRefsOf {ref : String} : ∀ ns : List Node,
    ref ∈ extendRefsOf ns → ∃ n ∈ ns, n.Names ref
  | [], h => absurd h List.not_mem_nil
  | n :: r, h => by
    rcases List.mem_append.mp h with h | h
    · exact ⟨n, List.mem_cons_self, names_of_mem_extendRefs n h⟩
    · obtain ⟨k, hk, hnames⟩ := exists_names_of_mem_extendRefsOf r h
      exact ⟨k, List.mem_cons_of_mem n hk, hnames⟩
end

theorem mem_extendRefs_iff (n : Node) (ref : String) : ref ∈ n.extendRefs ↔ n.Names ref :=
  ⟨names_of_mem_extendRefs n, Names.mem_extendRefs⟩

theorem extend_mem_leafList_iff (n : Node) (ref : String) :
    .extend ref ∈ n.leafList ↔ n.Names ref := by
  rw [← mem_extendRefs_iff, extendRefs_eq_filterMap, List.mem_filterMap]
  constructor
  · intro h
    exact ⟨.extend ref, h, rfl⟩
  · rintro ⟨l, hl, href⟩
    cases l with
    | extend other =>
      obtain rfl : other = ref := by simpa [Leaf.definitionRef?] using href
      exact hl
    | childless => cases href
    | criterion testRef => cases href

section Walk

variable {m : Type → Type} [Monad m] [LawfulMonad m]

theorem bind_mapM_congr {α β γ : Type} {f : α → m β} {l : List α} {k k' : List β → m γ}
    (h : ∀ bs, bs.length = l.length → k bs = k' bs) : (l.mapM f >>= k) = (l.mapM f >>= k') := by
  induction l generalizing k k' with
  | nil => simpa using h [] rfl
  | cons a r ih =>
    simp only [List.mapM_cons, bind_assoc, pure_bind]
    congr 1
    funext b
    apply ih
    intro bs hbs
    exact h (b :: bs) (by rw [List.length_cons, List.length_cons, hbs])

variable (leaves : Leaves m)

mutual
/-- The walk asks the leaves in document order and then gives the verdict. -/
theorem status_eq_mapM_leafList : ∀ n : Node,
    status leaves n = (do pure (n.verdict (← n.leafList.mapM leaves.answer)))
  | group _ _ _ [] => by simp [status, leafList, verdict, Leaves.answer]
  | group _ _ _ (n :: r) => by
    rw [status, statuses_eq_mapM_leafListOf (n :: r)]
    simp [leafList, verdict]
  | criterion .. => by simp [status, leafList, verdict, Leaves.answer]
  | extend .. => by simp [status, leafList, verdict, Leaves.answer]

theorem statuses_eq_mapM_leafListOf : ∀ ns : List Node,
    statuses leaves ns = (do pure (verdicts ns (← (leafListOf ns).mapM leaves.answer)))
  | [] => by simp [statuses, leafListOf, verdicts]
  | n :: r => by
    rw [statuses, status_eq_mapM_leafList n, statuses_eq_mapM_leafListOf r, leafListOf,
      List.mapM_append]
    simp only [bind_assoc, pure_bind]
    apply bind_mapM_congr
    intro answers hlen
    simp only [verdicts_cons_append n r hlen]
end

theorem mapM_congr_of_mem {α β : Type} {f g : α → m β} {l : List α} (h : ∀ a ∈ l, f a = g a) :
    l.mapM f = l.mapM g := by
  induction l with
  | nil => rfl
  | cons a r ih =>
    rw [List.mapM_cons, List.mapM_cons, h a List.mem_cons_self,
      ih fun b hb => h b (List.mem_cons_of_mem _ hb)]

/-- The walk asks nothing but the leaves of the tree. -/
theorem status_congr {leaves leaves' : Leaves m} {n : Node}
    (h : ∀ l ∈ n.leafList, leaves.answer l = leaves'.answer l) :
    status leaves n = status leaves' n := by
  rw [status_eq_mapM_leafList, status_eq_mapM_leafList, mapM_congr_of_mem h]

end Walk

end Node
end Oval
