import Mathlib.Algebra.Order.BigOperators.Group.Finset
import Mathlib.Logic.Relation
import Oval.Registry.Reach

/-! # Marking finds the nodes on a cycle

The search keeps a frontier: every edge that leaves a marked node ends at a marked node or at one
that still waits.  Each node is expanded once, so the waiting nodes together with the targets of
the unmarked nodes bound the steps.  When nothing waits, the marked nodes are closed under edges,
and a node is marked exactly if a path leads to it.
-/
namespace Oval.Graph

variable (g : Graph)

/-- An edge of the graph.  Its end may be no node; nothing leaves such an end. -/
def Edge (a b : Nat) : Prop := b ∈ g.targets a

theorem lt_size_of_edge {g : Graph} {a b : Nat} (h : g.Edge a b) : a < g.size := by
  by_contra ha
  have hnil : g.targets a = [] := by
    simp [targets, Array.getElem?_eq_none (Nat.le_of_not_lt ha)]
  rw [Edge, hnil] at h
  exact List.not_mem_nil h

/-- A number that is marked, or that is no node. -/
def Covered (marked : Array Bool) (a : Nat) : Prop := marked.getD a true = true

def Marked (marked : Array Bool) (a : Nat) : Prop := marked.getD a false = true

theorem Covered.marked {marked : Array Bool} {a : Nat} (h : Covered marked a)
    (ha : a < marked.size) : Marked marked a := by
  simp only [Marked, Covered, Array.getD_eq_getD_getElem?, Array.getElem?_eq_getElem ha] at h ⊢
  exact h

theorem lt_size_of_not_covered {marked : Array Bool} {a : Nat} (h : ¬Covered marked a) :
    a < marked.size := by
  by_contra ha
  apply h
  simp [Covered, Array.getElem?_eq_none (Nat.le_of_not_lt ha)]

theorem marked_set {marked : Array Bool} {a b : Nat} :
    Marked (marked.setIfInBounds a true) b ↔ (b = a ∧ a < marked.size) ∨ Marked marked b := by
  simp only [Marked, Array.getD_eq_getD_getElem?, Array.getElem?_setIfInBounds]
  by_cases hab : a = b
  · subst hab
    by_cases ha : a < marked.size <;> simp [ha]
  · simp [hab, Ne.symm hab]

theorem covered_set {marked : Array Bool} {a b : Nat} :
    Covered (marked.setIfInBounds a true) b ↔ b = a ∨ Covered marked b := by
  simp only [Covered, Array.getD_eq_getD_getElem?, Array.getElem?_setIfInBounds]
  by_cases hab : a = b
  · subst hab
    by_cases ha : a < marked.size <;> simp [ha]
  · simp [hab, Ne.symm hab]

/-- Whatever the search marks was marked before or is reached from a node that waited. -/
theorem reached_of_marked (steps : Nat) (todo : List Nat) (marked : Array Bool) {b : Nat}
    (h : Marked (g.reach steps todo marked) b) :
    Marked marked b ∨ ∃ a ∈ todo, Relation.ReflTransGen g.Edge a b := by
  induction steps generalizing todo marked with
  | zero => exact .inl h
  | succ steps ih =>
    cases todo with
    | nil => exact .inl h
    | cons a todo =>
      rw [reach] at h
      split at h
      · rcases ih todo marked h with hold | ⟨c, hc, hpath⟩
        · exact .inl hold
        · exact .inr ⟨c, List.mem_cons_of_mem a hc, hpath⟩
      · rcases ih _ _ h with hset | ⟨c, hc, hpath⟩
        · rcases marked_set.mp hset with ⟨rfl, _⟩ | hold
          · exact .inr ⟨b, List.mem_cons_self, .refl⟩
          · exact .inl hold
        · rcases List.mem_append.mp hc with htarget | hwait
          · exact .inr ⟨a, List.mem_cons_self, .head htarget hpath⟩
          · exact .inr ⟨c, List.mem_cons_of_mem a hwait, hpath⟩

/-- Every edge that leaves a marked node ends in what is covered or waits. -/
structure Frontier (todo : List Nat) (marked : Array Bool) : Prop where
  size_eq : marked.size = g.size
  edge : ∀ a b, Marked marked a → g.Edge a b → Covered marked b ∨ b ∈ todo

/-- The targets of the nodes that are not marked yet. -/
def pending (marked : Array Bool) : Nat :=
  ∑ a ∈ Finset.range g.size with ¬marked.getD a true = true, (g.targets a).length

theorem pending_set {marked : Array Bool} {a : Nat} (hsize : marked.size = g.size)
    (ha : ¬Covered marked a) :
    (g.targets a).length + g.pending (marked.setIfInBounds a true) = g.pending marked := by
  have hmem : a ∈ (Finset.range g.size).filter fun b => ¬marked.getD b true = true := by
    rw [Finset.mem_filter, Finset.mem_range, ← hsize]
    exact ⟨lt_size_of_not_covered ha, ha⟩
  have herase : ((Finset.range g.size).filter
        fun b => ¬(marked.setIfInBounds a true).getD b true = true) =
      ((Finset.range g.size).filter fun b => ¬marked.getD b true = true).erase a := by
    ext b
    have hb : (marked.setIfInBounds a true).getD b true = true ↔
        b = a ∨ marked.getD b true = true := covered_set
    simp only [Finset.mem_filter, Finset.mem_erase, hb]
    tauto
  rw [pending, herase, pending]
  exact Finset.add_sum_erase _ (fun b => (g.targets b).length) hmem

/-- With enough steps the search ends with nothing waiting, and what waited is covered. -/
theorem covered_of_frontier (steps : Nat) (todo : List Nat) (marked : Array Bool)
    (hf : g.Frontier todo marked) (hsteps : todo.length + g.pending marked ≤ steps) :
    g.Frontier [] (g.reach steps todo marked) ∧
      (∀ b ∈ todo, Covered (g.reach steps todo marked) b) ∧
      ∀ b, Covered marked b → Covered (g.reach steps todo marked) b := by
  induction steps generalizing todo marked with
  | zero =>
    have hnil : todo = [] := List.eq_nil_of_length_eq_zero (by omega)
    subst hnil
    exact ⟨hf, fun b hb => absurd hb List.not_mem_nil, fun b hb => hb⟩
  | succ steps ih =>
    cases todo with
    | nil => exact ⟨hf, fun b hb => absurd hb List.not_mem_nil, fun b hb => hb⟩
    | cons a todo =>
      rw [List.length_cons] at hsteps
      rw [reach]
      split
      · rename_i ha
        have hf' : g.Frontier todo marked := by
          refine ⟨hf.size_eq, fun x y hx hxy => ?_⟩
          rcases hf.edge x y hx hxy with hy | hy
          · exact .inl hy
          · rcases List.mem_cons.mp hy with rfl | hy
            · exact .inl ha
            · exact .inr hy
        obtain ⟨hend, htodo, hkeep⟩ := ih todo marked hf' (by omega)
        refine ⟨hend, fun b hb => ?_, hkeep⟩
        rcases List.mem_cons.mp hb with rfl | hb
        · exact hkeep b ha
        · exact htodo b hb
      · rename_i ha
        have hf' : g.Frontier (g.targets a ++ todo) (marked.setIfInBounds a true) := by
          refine ⟨by simpa using hf.size_eq, fun x y hx hxy => ?_⟩
          rcases marked_set.mp hx with ⟨rfl, _⟩ | hx
          · exact .inr (List.mem_append_left _ hxy)
          · rcases hf.edge x y hx hxy with hy | hy
            · exact .inl (covered_set.mpr (.inr hy))
            · rcases List.mem_cons.mp hy with rfl | hy
              · exact .inl (covered_set.mpr (.inl rfl))
              · exact .inr (List.mem_append_right _ hy)
        have hpending := g.pending_set hf.size_eq ha
        obtain ⟨hend, htodo, hkeep⟩ := ih _ _ hf' (by rw [List.length_append]; omega)
        refine ⟨hend, fun b hb => ?_, fun b hb => hkeep b (covered_set.mpr (.inr hb))⟩
        rcases List.mem_cons.mp hb with rfl | hb
        · exact hkeep b (covered_set.mpr (.inl rfl))
        · exact htodo b (List.mem_append_right _ hb)

theorem sum_targets_length :
    ∑ a ∈ Finset.range g.size, (g.targets a).length = g.edgeCount := by
  have hlist : (List.range g.size).map (fun a => (g.targets a).length) =
      g.toList.map List.length := by
    apply List.ext_getElem
    · simp
    · intro i hi _
      have hsize : i < g.size := by simpa using hi
      simp [targets, hsize]
  rw [edgeCount, List.length_flatten, ← hlist]
  rfl

theorem pending_le_edgeCount (marked : Array Bool) : g.pending marked ≤ g.edgeCount := by
  rw [← g.sum_targets_length]
  exact Finset.sum_le_sum_of_subset (Finset.filter_subset _ _)

/-- A node is found on a cycle exactly if a path of one edge or more leads from it back to it. -/
theorem onCycle_iff (a : Nat) : g.onCycle a = true ↔ Relation.TransGen g.Edge a a := by
  have hnone (b : Nat) : ¬Marked (Array.replicate g.size false) b := by
    simp only [Marked, Array.getD_eq_getD_getElem?, Array.getElem?_replicate]
    split <;> simp
  constructor
  · intro h
    rcases g.reached_of_marked _ _ _ h with hold | ⟨c, hc, hpath⟩
    · exact absurd hold (hnone a)
    · exact .head' hc hpath
  · intro h
    have hstart : g.Frontier (g.targets a) (Array.replicate g.size false) :=
      ⟨by simp, fun x y hx _ => absurd hx (hnone x)⟩
    obtain ⟨hend, htodo, -⟩ := g.covered_of_frontier
      ((g.targets a).length + g.edgeCount) (g.targets a) (Array.replicate g.size false) hstart
      (Nat.add_le_add_left (g.pending_le_edgeCount _) _)
    have hall (b : Nat) (hb : Relation.TransGen g.Edge a b) :
        Covered (g.reach ((g.targets a).length + g.edgeCount) (g.targets a)
          (Array.replicate g.size false)) b := by
      induction hb with
      | single hedge => exact htodo _ hedge
      | tail _ hedge ih =>
        have hlt := lt_size_of_edge hedge
        rw [← hend.size_eq] at hlt
        exact (hend.edge _ _ (ih.marked hlt) hedge).resolve_right List.not_mem_nil
    obtain ⟨b, hedge, -⟩ := Relation.TransGen.head'_iff.mp h
    have hlt := lt_size_of_edge hedge
    rw [← hend.size_eq] at hlt
    exact (hall a h).marked hlt

theorem mem_onCycles_iff (a : Nat) : a ∈ g.onCycles ↔ Relation.TransGen g.Edge a a := by
  rw [onCycles, List.mem_filter, List.mem_range, onCycle_iff, and_iff_right_iff_imp]
  intro h
  obtain ⟨b, hedge, -⟩ := Relation.TransGen.head'_iff.mp h
  exact lt_size_of_edge hedge

end Oval.Graph
