import Oval.Proofs.Evr.Reading
import Oval.Proofs.Evr.Token

/-! # Less one way is greater the other way

The actual side decides how many segments are looked at, so the two directions of a comparison may
stop in different places.  They never contradict each other: where one direction says less the
other says greater, from segments up to whole version texts.
-/
namespace Oval.Evr

/-- Two orderings in which the two directions of a comparison may result. -/
structure Opposed (o o' : Ordering) : Prop where
  gt_of_lt : o = .lt → o' = .gt
  gt_of_lt_right : o' = .lt → o = .gt

namespace Opposed

variable {o o' p p' : Ordering}

theorem of_swap (o : Ordering) : Opposed o o.swap := by
  constructor <;> cases o <;> decide

/-- Each direction goes on where it has not decided, which may be in one of them only. -/
theorem and_then (ho : Opposed o o') (hp : Opposed p p') :
    Opposed (o.then p) (o'.then p') := by
  cases o with
  | lt =>
    rw [ho.gt_of_lt rfl]
    exact of_swap .lt
  | eq =>
    cases o' with
    | lt => cases ho.gt_of_lt_right rfl
    | eq => exact hp
    | gt => exact ⟨fun _ => rfl, fun h => Ordering.noConfusion h⟩
  | gt => exact ⟨fun h => Ordering.noConfusion h, fun _ => rfl⟩

end Opposed

theorem opposed_compareSegments (a c : List Char) :
    Opposed (compareSegments a c) (compareSegments c a) := by
  have hswap : compareSegments c a = (compareSegments a c).swap := Std.OrientedCmp.eq_swap
  rw [hswap]
  exact .of_swap _

theorem opposed_compareDots (as cs : List (List Char)) :
    Opposed (compareDots as cs) (compareDots cs as) := by
  induction as generalizing cs with
  | nil =>
    cases cs with
    | nil => exact .of_swap .eq
    | cons c cs => exact ⟨fun _ => rfl, fun h => Ordering.noConfusion h⟩
  | cons a as ih =>
    cases cs with
    | nil => exact ⟨fun h => Ordering.noConfusion h, fun _ => rfl⟩
    | cons c cs => exact (opposed_compareSegments a c).and_then (ih cs)

theorem opposed_compareDashes (as cs : List (List Char)) :
    Opposed (compareDashes as cs) (compareDashes cs as) := by
  induction as generalizing cs with
  | nil => cases cs <;> exact .of_swap .eq
  | cons a as ih =>
    cases cs with
    | nil => exact .of_swap .eq
    | cons c cs => exact (opposed_compareDots _ _).and_then (ih cs)

theorem opposed_compareTexts (a c : List Char) :
    Opposed (compareTexts a c) (compareTexts c a) :=
  opposed_compareDashes _ _

/-- The epochs are numbers, so they decide in both directions or in neither. -/
theorem Reading.opposed_order (x y : Reading) : Opposed (x.order y) (y.order x) := by
  have hepoch : Opposed (Ord.compare x.epoch y.epoch) (Ord.compare y.epoch x.epoch) := by
    rw [← Nat.compare_swap x.epoch y.epoch]
    exact .of_swap _
  exact (hepoch.and_then (opposed_compareTexts _ _)).and_then (opposed_compareTexts _ _)

theorem compareDots_self (as : List (List Char)) : compareDots as as = .eq := by
  induction as with
  | nil => rfl
  | cons a as ih =>
    have hself : compareSegments a a = .eq := Std.ReflCmp.compare_self
    rw [compareDots, hself, ih]
    rfl

theorem compareTexts_self (a : List Char) : compareTexts a a = .eq := by
  rw [compareTexts]
  induction Text.pieces '-' a with
  | nil => rfl
  | cons p ps ih =>
    rw [compareDashes, compareDots_self, ih]
    rfl

theorem Reading.order_self (x : Reading) : x.order x = .eq := by
  rw [order, compareTexts_self, compareTexts_self, Nat.compare_eq_eq.mpr rfl]
  rfl

theorem ordering_swap_of_lt {a c : String} (h : ordering a c = .ok .lt) :
    ordering c a = .ok .gt := by
  obtain ⟨x, y, hx, hy, horder⟩ := ordering_eq_ok_iff.mp h
  exact ordering_eq_ok_iff.mpr ⟨y, x, hy, hx, (x.opposed_order y).gt_of_lt horder⟩

theorem ordering_self {a : String} {o : Ordering} (h : ordering a a = .ok o) : o = .eq := by
  obtain ⟨x, y, hx, hy, horder⟩ := ordering_eq_ok_iff.mp h
  obtain rfl : x = y := Option.some.inj (hx.symm.trans hy)
  rw [← horder, x.order_self]

theorem ordering_of_satisfies_lessThan {a c : String}
    (h : satisfies (.known .lessThan) a c = .ok true) : ordering a c = .ok .lt := by
  rw [satisfies] at h
  cases ho : ordering a c with
  | error cause =>
    rw [ho] at h
    cases h
  | ok o =>
    rw [ho] at h
    have hadmits : (o == .lt) = true := Except.ok.inj h
    rw [eq_of_beq hadmits]

/-- A version text that is less than another one is exceeded by it, and one that can be compared
with itself equals itself.  So the two directions never say less both, nor less and equal, and no
two texts are each less than the other. -/
theorem ordering_asymmetric (a c : String) :
    (ordering a c = .ok .lt → ordering c a = .ok .gt) ∧
      (∀ o, ordering a a = .ok o → o = .eq) ∧
      (∀ o o', ordering a c = .ok o → ordering c a = .ok o' →
        (o, o') ≠ (.lt, .lt) ∧ (o, o') ≠ (.lt, .eq) ∧ (o, o') ≠ (.eq, .lt)) ∧
      ¬(satisfies (.known .lessThan) a c = .ok true ∧
        satisfies (.known .lessThan) c a = .ok true) := by
  refine ⟨ordering_swap_of_lt, fun o => ordering_self, ?_, ?_⟩
  · intro o o' hforward hbackward
    refine ⟨?_, ?_, ?_⟩
    · rintro ⟨⟩
      cases hbackward.symm.trans (ordering_swap_of_lt hforward)
    · rintro ⟨⟩
      cases hbackward.symm.trans (ordering_swap_of_lt hforward)
    · rintro ⟨⟩
      cases hforward.symm.trans (ordering_swap_of_lt hbackward)
  · rintro ⟨hforward, hbackward⟩
    have hgt := ordering_swap_of_lt (ordering_of_satisfies_lessThan hforward)
    cases (ordering_of_satisfies_lessThan hbackward).symm.trans hgt

/-- One direction is decided by the releases and the other one by the versions. -/
theorem ordering_asymmetric_staged :
    let a := "1.0-5"
    let c := "1.0.0-7"
    (ordering a c = .ok .lt ∧ ordering c a = .ok .gt) ∧
      (∃ o, ordering a a = .ok o ∧ o = .eq) ∧
      ((.lt, .gt) : Ordering × Ordering) ≠ (.lt, .lt) ∧
      satisfies (.known .lessThan) a c = .ok true ∧
        ¬satisfies (.known .lessThan) c a = .ok true := by
  intro a c
  obtain ⟨hswap, hself, hpair, hboth⟩ := ordering_asymmetric a c
  have hless : ordering a c = .ok .lt := by decide
  have hsame : ordering a a = .ok .eq := by decide
  have hsatisfied : satisfies (.known .lessThan) a c = .ok true := by decide
  have hgreater := hswap hless
  exact ⟨⟨hless, hgreater⟩, ⟨.eq, hsame, hself .eq hsame⟩, (hpair _ _ hless hgreater).1, hsatisfied,
    fun h => hboth ⟨hsatisfied, h⟩⟩

/-- The directions need not reverse each other. -/
example : ordering "1.0-5" "1.0.0-2" = .ok .gt ∧ ordering "1.0.0-2" "1.0-5" = .ok .gt := by
  decide

end Oval.Evr
