import Mathlib.Data.List.Forall2
import Oval.Proofs.Criteria.Leaf

/-! # What a verdict owes to the answers

A verdict that is not decided is the answer of some leaf.  An error among the answers does not
decide: whatever takes its place, the verdict stays as it is unless it was an error itself.
-/
namespace Oval

namespace Status

def IsDecided (s : Status) : Prop := s = holds ∨ s = fails

instance (s : Status) : Decidable s.IsDecided := inferInstanceAs (Decidable (_ ∨ _))

theorem isDecided_ofBool (b : Bool) : (ofBool b).IsDecided := by
  cases b
  · exact .inr rfl
  · exact .inl rfl

theorem isDecided_negateIf_or_eq (s : Status) (negate : Bool) :
    (s.negateIf negate).IsDecided ∨ s.negateIf negate = s := by
  cases negate <;> cases s <;> decide

theorem negateIf_ne_notEvaluated (negate : Bool) {s : Status} (h : s ≠ notEvaluated) :
    s.negateIf negate ≠ notEvaluated := by
  rcases s.isDecided_negateIf_or_eq negate with hd | heq
  · rcases hd with hd | hd <;> rw [hd] <;> decide
  · rw [heq]
    exact h

/-- The second status is the first one unless that is an error. -/
def RepairedBy (s t : Status) : Prop := s = error ∨ s = t

theorem RepairedBy.refl (s : Status) : s.RepairedBy s := .inr rfl

theorem RepairedBy.eq_of_isDecided {s t : Status} (h : s.RepairedBy t) (hs : s.IsDecided) :
    t = s := by
  rcases h with rfl | rfl
  · rcases hs with h | h <;> cases h
  · rfl

theorem RepairedBy.negateIf {s t : Status} (h : s.RepairedBy t) (negate : Bool) :
    (s.negateIf negate).RepairedBy (t.negateIf negate) := by
  rcases h with rfl | rfl
  · exact .inl rfl
  · exact .refl _

theorem mem_of_forall₂_repairedBy {s : Status} {ss ts : List Status}
    (h : List.Forall₂ RepairedBy ss ts) (hs : s.IsDecided) (hmem : s ∈ ss) : s ∈ ts := by
  induction h with
  | nil => exact absurd hmem List.not_mem_nil
  | cons hst _ ih =>
    rcases List.mem_cons.mp hmem with rfl | hmem
    · rw [hst.eq_of_isDecided hs]
      exact List.mem_cons_self
    · exact List.mem_cons_of_mem _ (ih hmem)

theorem eq_of_forall₂_repairedBy {ss ts : List Status} (h : List.Forall₂ RepairedBy ss ts)
    (herror : .error ∉ ss) : ss = ts := by
  induction h with
  | nil => rfl
  | cons hst _ ih =>
    rw [List.mem_cons, not_or] at herror
    rw [hst.resolve_left (Ne.symm herror.1), ih herror.2]

end Status

namespace Operator

variable {op : Operator}

theorem isDecided_dominant (op : Operator) : op.dominant.IsDecided := by cases op <;> decide

theorem isDecided_fallback (op : Operator) : op.fallback.IsDecided := by cases op <;> decide

theorem isDecided_combine_or_mem {children : List Status} (h : .notEvaluated ∉ children) :
    (op.combine children).IsDecided ∨ op.combine children ∈ children := by
  unfold combine
  split
  · exact .inl op.isDecided_dominant
  · split
    · rename_i herror
      exact .inr (List.contains_iff_mem.mp herror)
    · split
      · rename_i hundecided
        obtain ⟨s, hs, hsu⟩ := List.any_eq_true.mp hundecided
        cases s with
        | unknown => exact .inr hs
        | notEvaluated => exact absurd hs h
        | holds | fails | error => cases hsu
      · exact .inl op.isDecided_fallback

theorem combine_of_dominant_mem {children : List Status} (h : op.dominant ∈ children) :
    op.combine children = op.dominant := by
  rw [combine, if_pos (List.contains_iff_mem.mpr h)]

theorem combine_of_error_mem {children : List Status} (hdominant : op.dominant ∉ children)
    (h : .error ∈ children) : op.combine children = .error := by
  rw [combine, if_neg (mt List.contains_iff_mem.mp hdominant),
    if_pos (List.contains_iff_mem.mpr h)]

theorem repairedBy_combine {ss ts : List Status} (h : List.Forall₂ Status.RepairedBy ss ts) :
    (op.combine ss).RepairedBy (op.combine ts) := by
  by_cases hdominant : op.dominant ∈ ss
  · have hstays := Status.mem_of_forall₂_repairedBy h op.isDecided_dominant hdominant
    rw [combine_of_dominant_mem hdominant, combine_of_dominant_mem hstays]
    exact .refl _
  · by_cases herror : .error ∈ ss
    · exact .inl (combine_of_error_mem hdominant herror)
    · rw [Status.eq_of_forall₂_repairedBy h herror]
      exact .refl _

end Operator

namespace Node

theorem isDecided_negateIf_headD_or_mem (negate : Bool) {answers : List Status}
    (h : answers.length = 1) :
    ((answers.headD .unknown).negateIf negate).IsDecided ∨
      (answers.headD .unknown).negateIf negate ∈ answers := by
  obtain ⟨s, rfl⟩ := List.length_eq_one_iff.mp h
  exact (s.isDecided_negateIf_or_eq negate).imp_right List.mem_singleton.mpr

mutual
/-- A verdict that is not decided is one of the answers. -/
theorem isDecided_verdict_or_mem : ∀ (n : Node) {answers : List Status},
    answers.length = n.leafList.length → .notEvaluated ∉ answers →
      (n.verdict answers).IsDecided ∨ n.verdict answers ∈ answers
  | group _ negate _ [], answers, hlen, _ => isDecided_negateIf_headD_or_mem negate hlen
  | group operator negate _ (n :: r), answers, hlen, hnot => by
    have hchildren := isDecided_or_mem_of_mem_verdicts (n :: r) hlen hnot
    have hnone : .notEvaluated ∉ verdicts (n :: r) answers := by
      intro hmem
      rcases hchildren _ hmem with h | h
      · exact absurd h (by decide)
      · exact hnot h
    rw [verdict]
    rcases (operator.combine (verdicts (n :: r) answers)).isDecided_negateIf_or_eq negate
      with h | h
    · exact .inl h
    · rw [h]
      rcases Operator.isDecided_combine_or_mem hnone with hc | hc
      · exact .inl hc
      · exact hchildren _ hc
  | criterion _ negate _, answers, hlen, _ => isDecided_negateIf_headD_or_mem negate hlen
  | extend _ negate _, answers, hlen, _ => isDecided_negateIf_headD_or_mem negate hlen

theorem isDecided_or_mem_of_mem_verdicts : ∀ (ns : List Node) {answers : List Status},
    answers.length = (leafListOf ns).length → .notEvaluated ∉ answers →
      ∀ s ∈ verdicts ns answers, s.IsDecided ∨ s ∈ answers
  | [], _, _, _ => fun _ h => absurd h List.not_mem_nil
  | n :: r, answers, hlen, hnot => by
    rw [leafListOf, List.length_append] at hlen
    have hfirst : (answers.take n.leafList.length).length = n.leafList.length := by
      rw [List.length_take]
      omega
    have hrest : (answers.drop n.leafList.length).length = (leafListOf r).length := by
      rw [List.length_drop]
      omega
    intro s hs
    rcases List.mem_cons.mp hs with rfl | hs
    · have h := isDecided_verdict_or_mem n hfirst fun h => hnot (List.mem_of_mem_take h)
      exact h.imp_right List.mem_of_mem_take
    · have h := isDecided_or_mem_of_mem_verdicts r hrest (fun h => hnot (List.mem_of_mem_drop h))
        s hs
      exact h.imp_right List.mem_of_mem_drop
end

theorem verdict_ne_notEvaluated (n : Node) {answers : List Status}
    (h : .notEvaluated ∉ answers) : n.verdict answers ≠ .notEvaluated := by
  have hhead : answers.headD .unknown ≠ .notEvaluated := by
    cases answers with
    | nil => decide
    | cons s r =>
      rintro rfl
      exact h List.mem_cons_self
  cases n with
  | group operator negate comment children =>
    cases children with
    | nil => exact Status.negateIf_ne_notEvaluated negate hhead
    | cons n r =>
      exact Status.negateIf_ne_notEvaluated negate (operator.combine_ne_notEvaluated _)
  | criterion testRef negate comment => exact Status.negateIf_ne_notEvaluated negate hhead
  | extend definitionRef negate comment => exact Status.negateIf_ne_notEvaluated negate hhead

theorem repairedBy_headD {answers answers' : List Status}
    (h : List.Forall₂ Status.RepairedBy answers answers') :
    (answers.headD .unknown).RepairedBy (answers'.headD .unknown) := by
  cases h with
  | nil => exact .refl _
  | cons hst _ => exact hst

mutual
/-- Answers in the place of errors change no verdict but an error. -/
theorem repairedBy_verdict : ∀ (n : Node) {answers answers' : List Status},
    List.Forall₂ Status.RepairedBy answers answers' →
      (n.verdict answers).RepairedBy (n.verdict answers')
  | group _ negate _ [], _, _, h => (repairedBy_headD h).negateIf negate
  | group _ negate _ (n :: r), _, _, h =>
    (Operator.repairedBy_combine (forall₂_repairedBy_verdicts (n :: r) h)).negateIf negate
  | criterion _ negate _, _, _, h => (repairedBy_headD h).negateIf negate
  | extend _ negate _, _, _, h => (repairedBy_headD h).negateIf negate

theorem forall₂_repairedBy_verdicts : ∀ (ns : List Node) {answers answers' : List Status},
    List.Forall₂ Status.RepairedBy answers answers' →
      List.Forall₂ Status.RepairedBy (verdicts ns answers) (verdicts ns answers')
  | [], _, _, _ => .nil
  | n :: r, _, _, h =>
    .cons (repairedBy_verdict n (List.forall₂_take _ h))
      (forall₂_repairedBy_verdicts r (List.forall₂_drop _ h))
end

end Node
end Oval
