import Oval.Status

/-! # The algebra of combining statuses

A combination depends on three facts about the children: whether one is dominant, one an error, and
one undecided.  So the order of children does not matter, a combination may stand for the children
it combines, and negating every child exchanges the operators.
-/
namespace Oval

namespace Status

@[simp] theorem negateIf_unknown (negate : Bool) : unknown.negateIf negate = unknown := rfl

@[simp] theorem isUndecided_negateIf (negate : Bool) (s : Status) :
    (s.negateIf negate).isUndecided = s.isUndecided := by
  cases negate <;> cases s <;> rfl

theorem negateIf_eq_negateIf_iff {negate : Bool} {s t : Status} :
    s.negateIf negate = t.negateIf negate ↔ s = t := by
  constructor
  · intro h
    simpa using congrArg (negateIf negate) h
  · rintro rfl
    rfl

theorem contains_map_negateIf (negate : Bool) (ss : List Status) (s : Status) :
    (ss.map (negateIf negate)).contains (s.negateIf negate) = ss.contains s := by
  rw [Bool.eq_iff_iff, List.contains_iff_mem, List.contains_iff_mem, List.mem_map]
  constructor
  · rintro ⟨t, ht, heq⟩
    exact negateIf_eq_negateIf_iff.mp heq ▸ ht
  · intro h
    exact ⟨s, h, rfl⟩

end Status

namespace Operator

def dual : Operator → Operator
  | and => or
  | or => and

theorem dominant_dual (op : Operator) : op.dual.dominant = op.dominant.negateIf true := by
  cases op <;> rfl

/-- What is combined from children, given whether one is dominant, an error or undecided. -/
def settle (op : Operator) (dominant error undecided : Bool) : Status :=
  if dominant then op.dominant
  else if error then .error
  else if undecided then .unknown
  else op.fallback

theorem combine_eq_settle (op : Operator) (children : List Status) :
    op.combine children =
      op.settle (children.contains op.dominant) (children.contains .error)
        (children.any Status.isUndecided) := rfl

theorem settle_dual (op : Operator) (dominant error undecided : Bool) :
    op.dual.settle dominant error undecided =
      (op.settle dominant error undecided).negateIf true := by
  cases op <;> cases dominant <;> cases error <;> cases undecided <;> rfl

/-- Combining negated statuses is negating what the other operator combines. -/
theorem combine_dual_map_negateIf (op : Operator) (children : List Status) :
    op.dual.combine (children.map (Status.negateIf true)) =
      (op.combine children).negateIf true := by
  have hdominant : (children.map (Status.negateIf true)).contains op.dual.dominant =
      children.contains op.dominant := by
    rw [dominant_dual, Status.contains_map_negateIf]
  have herror : (children.map (Status.negateIf true)).contains .error =
      children.contains .error := Status.contains_map_negateIf true children .error
  have hundecided : (children.map (Status.negateIf true)).any Status.isUndecided =
      children.any Status.isUndecided := by
    simp [List.any_map, Function.comp_def]
  rw [combine_eq_settle, combine_eq_settle, hdominant, herror, hundecided, settle_dual]

theorem combine_perm (op : Operator) {children children' : List Status}
    (h : children.Perm children') : op.combine children = op.combine children' := by
  simp only [combine_eq_settle, List.contains_eq_mem, h.mem_iff, h.any_eq]

/-- A combination stands for the children that it combines. -/
theorem combine_cons_combine (op : Operator) (children others : List Status) :
    op.combine (op.combine children :: others) = op.combine (children ++ others) := by
  simp only [combine_eq_settle, List.contains_cons, List.any_cons, List.contains_append,
    List.any_append]
  generalize children.contains op.dominant = dominant
  generalize children.contains .error = error
  generalize children.any Status.isUndecided = undecided
  cases op <;> cases dominant <;> cases error <;> cases undecided <;> rfl

theorem combine_append_combine (op : Operator) (before children after : List Status) :
    op.combine (before ++ op.combine children :: after) =
      op.combine (before ++ children ++ after) := by
  have hfirst : (before ++ op.combine children :: after).Perm
      (op.combine children :: (before ++ after)) := List.perm_middle
  have hback : (children ++ (before ++ after)).Perm (before ++ children ++ after) := by
    rw [← List.append_assoc]
    exact List.perm_append_comm.append_right after
  rw [combine_perm op hfirst, combine_cons_combine, combine_perm op hback]

end Operator
end Oval
