import Oval.Proofs.Evr.Reading
import Oval.Proofs.Evr.Token

/-! # Versions of one shape

Texts of one shape have segments in the same places.  Then no segment lacks a partner, and comparing
comes to the lexicographic order of segments through dots, dashes and the three parts: a total
preorder.
-/
namespace Oval.Evr

open Std (TransCmp)

/-- The dash pieces of a text, each cut at its dots. -/
def segments (s : List Char) : List (List (List Char)) := (Text.pieces '-' s).map (Text.pieces '.')

def shape (s : List Char) : List Nat := (segments s).map List.length

/-- The order of texts that lets no segment decide by its absence alone. -/
def compareAligned (a c : List Char) : Ordering :=
  List.compareLex (List.compareLex compareSegments) (segments a) (segments c)

theorem transCmp_on {α β : Type} (cmp : β → β → Ordering) [TransCmp cmp] (f : α → β) :
    TransCmp fun x y => cmp (f x) (f y) where
  eq_swap := Std.OrientedCmp.eq_swap
  isLE_trans := TransCmp.isLE_trans

instance : TransCmp compareAligned :=
  transCmp_on (List.compareLex (List.compareLex compareSegments)) segments

theorem compareDots_eq_compareLex {as cs : List (List Char)} (h : as.length = cs.length) :
    compareDots as cs = List.compareLex compareSegments as cs := by
  induction as generalizing cs with
  | nil =>
    cases cs with
    | nil => rfl
    | cons c cs => cases h
  | cons a as ih =>
    cases cs with
    | nil => cases h
    | cons c cs => rw [compareDots, List.compareLex_cons_cons, ih (Nat.succ.inj h)]

theorem compareDashes_eq_compareLex {as cs : List (List Char)}
    (h : as.map (fun p => (Text.pieces '.' p).length) =
      cs.map fun p => (Text.pieces '.' p).length) :
    compareDashes as cs = List.compareLex (List.compareLex compareSegments)
      (as.map (Text.pieces '.')) (cs.map (Text.pieces '.')) := by
  induction as generalizing cs with
  | nil =>
    cases cs with
    | nil => rfl
    | cons c cs => cases h
  | cons a as ih =>
    cases cs with
    | nil => cases h
    | cons c cs =>
      rw [List.map_cons, List.map_cons, List.cons.injEq] at h
      rw [compareDashes, List.map_cons, List.map_cons, List.compareLex_cons_cons, ih h.2,
        compareDots_eq_compareLex h.1]

theorem compareTexts_eq_compareAligned {a c : List Char} (h : shape a = shape c) :
    compareTexts a c = compareAligned a c := by
  rw [shape, shape, segments, segments, List.map_map, List.map_map] at h
  exact compareDashes_eq_compareLex h

namespace Reading

/-- The order of readings whose versions are aligned, and whose releases are. -/
def compareAligned : Reading → Reading → Ordering :=
  compareLex (compareLex (compareOn epoch) fun x y => Evr.compareAligned x.version y.version)
    fun x y => Evr.compareAligned x.release y.release

instance : TransCmp compareAligned :=
  have := transCmp_on Evr.compareAligned version
  have := transCmp_on Evr.compareAligned release
  inferInstanceAs (TransCmp (compareLex
    (compareLex (compareOn epoch) fun x y => Evr.compareAligned x.version y.version)
    fun x y => Evr.compareAligned x.release y.release))

def shapes (x : Reading) : List Nat × List Nat := (shape x.version, shape x.release)

theorem order_eq_compareAligned {x y : Reading} (h : x.shapes = y.shapes) :
    x.order y = x.compareAligned y := by
  rw [shapes, shapes, Prod.mk.injEq] at h
  rw [order, compareTexts_eq_compareAligned h.1, compareTexts_eq_compareAligned h.2]
  rfl

end Reading

/-- The epoch is below the bound of words, the version is not empty, and version and release have
the given shapes, an empty release that of zero. -/
structure HasShape (s : String) (version release : List Nat) : Prop where
  epoch_lt : Text.decimalValue (parts s).epoch < Text.wordBound
  version_ne_nil : (parts s).version ≠ []
  shape_version : shape (parts s).version = version
  shape_release : shape (releaseOrZero (parts s).release) = release

theorem HasShape.exists_reading? {s : String} {version release : List Nat}
    (h : HasShape s version release) :
    ∃ x, reading? s = some x ∧ x.shapes = (version, release) := by
  obtain ⟨hne, hall⟩ := digits_epoch_parts s
  have hepoch := Text.word?_of_digits hne hall h.epoch_lt
  refine ⟨_, reading?_of_word? hepoch h.version_ne_nil, ?_⟩
  rw [Reading.shapes, h.shape_version, h.shape_release]

/-- Among version texts of one shape every two can be compared, the directions reverse each other,
not being greater passes on and is less if it is so anywhere, and equal texts compare alike. -/
theorem ordering_total_preorder {version release : List Nat} {a b c : String}
    (ha : HasShape a version release) (hb : HasShape b version release)
    (hc : HasShape c version release) :
    ∃ ab bc ac, ordering a b = .ok ab ∧ ordering b c = .ok bc ∧ ordering a c = .ok ac ∧
      ordering b a = .ok ab.swap ∧
      (ab ≠ .gt → bc ≠ .gt → ac ≠ .gt ∧ (ab = .lt ∨ bc = .lt → ac = .lt)) ∧
      (ab = .eq → ac = bc ∧ ordering c a = ordering c b) := by
  obtain ⟨x, hx, hxshapes⟩ := ha.exists_reading?
  obtain ⟨y, hy, hyshapes⟩ := hb.exists_reading?
  obtain ⟨z, hz, hzshapes⟩ := hc.exists_reading?
  have hordering {s t : String} {v w : Reading} (hs : reading? s = some v)
      (ht : reading? t = some w) (hv : v.shapes = (version, release))
      (hw : w.shapes = (version, release)) : ordering s t = .ok (v.compareAligned w) :=
    ordering_eq_ok_iff.mpr ⟨v, w, hs, ht, Reading.order_eq_compareAligned (hv.trans hw.symm)⟩
  refine ⟨x.compareAligned y, y.compareAligned z, x.compareAligned z,
    hordering hx hy hxshapes hyshapes, hordering hy hz hyshapes hzshapes,
    hordering hx hz hxshapes hzshapes, ?_, ?_, ?_⟩
  · rw [hordering hy hx hyshapes hxshapes]
    exact congrArg Except.ok Std.OrientedCmp.eq_swap
  · intro hab hbc
    have hab' := Ordering.ne_gt_iff_isLE.mp hab
    have hbc' := Ordering.ne_gt_iff_isLE.mp hbc
    refine ⟨Ordering.ne_gt_iff_isLE.mpr (TransCmp.isLE_trans hab' hbc'), ?_⟩
    rintro (hlt | hlt)
    · exact TransCmp.lt_of_lt_of_isLE hlt hbc'
    · exact TransCmp.lt_of_isLE_of_lt hab' hlt
  · intro heq
    rw [hordering hz hx hzshapes hxshapes, hordering hz hy hzshapes hyshapes]
    exact ⟨TransCmp.congr_left heq, congrArg Except.ok (TransCmp.congr_right heq)⟩

/-- A segment that is no word, one with a tilde, and an epoch and releases that are left out. -/
theorem ordering_total_preorder_mixed :
    let a := "1.0~rc1-5"
    let b := "0:1.0-05+"
    let c := "1.99999999999999999999-5+0"
    HasShape a [2, 1] [1] ∧ HasShape b [2, 1] [1] ∧ HasShape c [2, 1] [1] ∧
      ∃ ab bc ac, ordering a b = .ok ab ∧ ordering b c = .ok bc ∧ ordering a c = .ok ac ∧
        ordering b a = .ok ab.swap ∧
        (ab ≠ .gt → bc ≠ .gt → ac ≠ .gt ∧ (ab = .lt ∨ bc = .lt → ac = .lt)) ∧
        (ab = .eq → ac = bc ∧ ordering c a = ordering c b) := by
  intro a b c
  have ha : HasShape a [2, 1] [1] := ⟨by decide, by decide, by decide, by decide⟩
  have hb : HasShape b [2, 1] [1] := ⟨by decide, by decide, by decide, by decide⟩
  have hc : HasShape c [2, 1] [1] := ⟨by decide, by decide, by decide, by decide⟩
  exact ⟨ha, hb, hc, ordering_total_preorder ha hb hc⟩

end Oval.Evr
