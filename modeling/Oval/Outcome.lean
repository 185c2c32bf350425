import Oval.Diagnostic
import Oval.Status

/-! # Outcomes

What is known about each definition of a registry, by its position.
-/
namespace Oval

/-- The status of a definition and all diagnostics of its evaluation. -/
structure Outcome where
  status : Status
  diagnostics : List Diagnostic
  deriving DecidableEq, Repr

structure Outcomes where
  entries : List (Option Outcome)
  deriving DecidableEq, Repr

namespace Outcomes

/-- No outcome for any of `count` definitions. -/
def fresh (count : Nat) : Outcomes := ⟨List.replicate count none⟩

def size (o : Outcomes) : Nat := o.entries.length

def get? (o : Outcomes) (position : Nat) : Option Outcome := o.entries[position]?.join

def store (o : Outcomes) (position : Nat) (outcome : Outcome) : Outcomes :=
  ⟨o.entries.set position (some outcome)⟩

def clear (o : Outcomes) (position : Nat) : Outcomes := ⟨o.entries.set position none⟩

/-- Forgets the outcomes at the positions, one after the other. -/
def clearAll (o : Outcomes) (positions : List Nat) : Outcomes := positions.foldl clear o

def statusOf (outcome : Option Outcome) : Status :=
  (outcome.map Outcome.status).getD .notEvaluated

def status (o : Outcomes) (position : Nat) : Status := statusOf (o.get? position)

def statuses (o : Outcomes) : List Status := o.entries.map statusOf

theorem get?_eq_none_of_size_le {o : Outcomes} {position : Nat} (h : o.size ≤ position) :
    o.get? position = none := by
  rw [get?, List.getElem?_eq_none h, Option.join_none]

@[simp] theorem size_fresh (count : Nat) : (fresh count).size = count := by simp [fresh, size]

@[simp] theorem size_store (o : Outcomes) (position : Nat) (outcome : Outcome) :
    (o.store position outcome).size = o.size := by simp [store, size]

@[simp] theorem get?_fresh (count position : Nat) : (fresh count).get? position = none := by
  simp only [fresh, get?, List.getElem?_replicate]
  split <;> rfl

theorem get?_store (o : Outcomes) (position : Nat) (outcome : Outcome) (other : Nat) :
    (o.store position outcome).get? other =
      if other = position ∧ position < o.size then some outcome else o.get? other := by
  simp only [store, get?, size, List.getElem?_set]
  by_cases h : position = other
  · subst h
    by_cases hlt : position < o.entries.length <;> simp [hlt]
  · simp [h, Ne.symm h]

@[simp] theorem size_clear (o : Outcomes) (position : Nat) : (o.clear position).size = o.size := by
  simp [clear, size]

theorem get?_clear (o : Outcomes) (position other : Nat) :
    (o.clear position).get? other = if other = position then none else o.get? other := by
  simp only [clear, get?, List.getElem?_set]
  by_cases h : position = other
  · subst h
    by_cases hlt : position < o.entries.length <;> simp [hlt]
  · simp [h, Ne.symm h]

@[simp] theorem size_clearAll (o : Outcomes) (positions : List Nat) :
    (o.clearAll positions).size = o.size := by
  induction positions generalizing o with
  | nil => rfl
  | cons position r ih => exact (ih (o.clear position)).trans (size_clear o position)

theorem get?_clearAll (o : Outcomes) (positions : List Nat) (other : Nat) :
    (o.clearAll positions).get? other = if other ∈ positions then none else o.get? other := by
  induction positions generalizing o with
  | nil => simp [clearAll]
  | cons position r ih =>
    rw [clearAll, List.foldl_cons, ← clearAll, ih, get?_clear]
    by_cases hr : other ∈ r <;> by_cases hp : other = position <;> simp [hr, hp]

theorem ext_get? {o o' : Outcomes} (hsize : o.size = o'.size)
    (h : ∀ position, o.get? position = o'.get? position) : o = o' := by
  obtain ⟨entries⟩ := o
  obtain ⟨entries'⟩ := o'
  congr 1
  apply List.ext_getElem hsize
  intro i hi hi'
  have hget := h i
  simp only [get?, List.getElem?_eq_getElem hi, List.getElem?_eq_getElem hi'] at hget
  exact hget

end Outcomes
end Oval
