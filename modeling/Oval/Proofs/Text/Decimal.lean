import Mathlib.Algebra.Group.Nat.Defs
import Oval.Text.Decimal

/-! # The values of runs of digits

Leading zeros do not count, and without them the longer run is the greater number; of two runs of
one length the first digit that differs decides.
-/
namespace Oval.Text

theorem isDigit_iff {c : Char} : isDigit c = true ↔ 48 ≤ c.toNat ∧ c.toNat ≤ 57 := by
  simp only [isDigit, Bool.and_eq_true, decide_eq_true_eq, Char.le_def, UInt32.le_iff_toNat_le]
  rfl

theorem compare_congr {m n m' n' : Nat} (hlt : m < n ↔ m' < n') (heq : m = n ↔ m' = n') :
    compare m n = compare m' n' := by
  change compareOfLessAndEq m n = compareOfLessAndEq m' n'
  simp only [compareOfLessAndEq, hlt, heq]

theorem compare_toNat (x y : Char) : compare x y = compare x.toNat y.toNat := by
  have hlt : x < y ↔ x.toNat < y.toNat := by
    rw [Char.lt_def, UInt32.lt_iff_toNat_lt]
    rfl
  have heq : x = y ↔ x.toNat = y.toNat := Char.toNat_inj.symm
  change compareOfLessAndEq x y = compareOfLessAndEq x.toNat y.toNat
  simp only [compareOfLessAndEq, hlt, heq]

theorem decimalValue_cons (c : Char) (r : List Char) :
    decimalValue (c :: r) = 10 ^ r.length * (c.toNat - 48) + decimalValue r := by
  have h : decimalValue (c :: r) = Nat.ofDigitChars 10 r (c.toNat - 48) := by
    simp [decimalValue, Nat.ofDigitChars]
  rw [h, Nat.ofDigitChars_eq_ofDigitChars_zero]
  rfl

theorem decimalValue_lt {ds : List Char} (h : ds.all isDigit = true) :
    decimalValue ds < 10 ^ ds.length := by
  induction ds with
  | nil => decide
  | cons c r ih =>
    rw [List.all_cons, Bool.and_eq_true, isDigit_iff] at h
    have hr := ih h.2
    have hc : c.toNat - 48 ≤ 9 := by omega
    have hmul := Nat.mul_le_mul_left (10 ^ r.length) hc
    rw [decimalValue_cons, List.length_cons, Nat.pow_succ]
    omega

theorem decimalValue_dropWhile_zero (ds : List Char) :
    decimalValue (ds.dropWhile (· = '0')) = decimalValue ds := by
  induction ds with
  | nil => rfl
  | cons c r ih =>
    by_cases hc : c = '0'
    · subst hc
      rw [List.dropWhile_cons_of_pos (by simp), ih, decimalValue_cons]
      simp
    · rw [List.dropWhile_cons_of_neg (by simpa using hc)]

theorem all_dropWhile_zero {ds : List Char} (h : ds.all isDigit = true) :
    (ds.dropWhile (· = '0')).all isDigit = true := by
  rw [List.all_eq_true] at h ⊢
  intro x hx
  exact h x ((List.dropWhile_suffix _).subset hx)

theorem head?_dropWhile_zero (ds : List Char) : (ds.dropWhile (· = '0')).head? ≠ some '0' := by
  intro h
  have hnot := List.head?_dropWhile_not (fun x : Char => decide (x = '0')) ds
  rw [h] at hnot
  simp at hnot

theorem compare_mul_add {b m n r s : Nat} (hr : r < b) (hs : s < b) :
    compare (b * m + r) (b * n + s) = (compare m n).then (compare r s) := by
  rcases Nat.lt_trichotomy m n with h | rfl | h
  · have hmul : b * (m + 1) ≤ b * n := Nat.mul_le_mul_left b h
    have hlt : b * m + r < b * n + s := by
      rw [Nat.mul_add] at hmul
      omega
    rw [Nat.compare_eq_lt.mpr h, Nat.compare_eq_lt.mpr hlt, Ordering.lt_then]
  · rw [Nat.compare_eq_eq.mpr rfl, Ordering.eq_then]
    exact compare_congr (by omega) (by omega)
  · have hmul : b * (n + 1) ≤ b * m := Nat.mul_le_mul_left b h
    have hlt : b * n + s < b * m + r := by
      rw [Nat.mul_add] at hmul
      omega
    rw [Nat.compare_eq_gt.mpr h, Nat.compare_eq_gt.mpr hlt, Ordering.gt_then]

theorem compare_digits {x y : Char} (hx : isDigit x = true) (hy : isDigit y = true) :
    compare x y = compare (x.toNat - 48) (y.toNat - 48) := by
  have hx' := isDigit_iff.mp hx
  have hy' := isDigit_iff.mp hy
  rw [compare_toNat]
  exact compare_congr (by omega) (by omega)

theorem compareLex_digits {a c : List Char} (ha : a.all isDigit = true) (hc : c.all isDigit = true)
    (hlen : a.length = c.length) :
    List.compareLex compare a c = compare (decimalValue a) (decimalValue c) := by
  induction a generalizing c with
  | nil =>
    cases c with
    | nil => rfl
    | cons y c => cases hlen
  | cons x a ih =>
    cases c with
    | nil => cases hlen
    | cons y c =>
      rw [List.all_cons, Bool.and_eq_true] at ha hc
      have hlen' : a.length = c.length := Nat.succ.inj hlen
      have hav := decimalValue_lt ha.2
      rw [hlen'] at hav
      rw [List.compareLex_cons_cons, ih ha.2 hc.2 hlen', compare_digits ha.1 hc.1,
        decimalValue_cons, decimalValue_cons, hlen', compare_mul_add hav (decimalValue_lt hc.2)]

/-- A run that does not begin with zero is at least the power of ten of its place. -/
theorem pow_le_decimalValue {x : Char} {r : List Char} (hx : isDigit x = true) (hzero : x ≠ '0') :
    10 ^ r.length ≤ decimalValue (x :: r) := by
  have hx' := isDigit_iff.mp hx
  have hne : x.toNat ≠ '0'.toNat := fun h => hzero (Char.toNat_inj.mp h)
  have hone : 1 ≤ x.toNat - 48 := by
    have h48 : '0'.toNat = 48 := rfl
    omega
  rw [decimalValue_cons]
  exact Nat.le_add_right_of_le (Nat.le_mul_of_pos_right _ hone)

theorem decimalValue_lt_of_length_lt {a c : List Char} (ha : a.all isDigit = true)
    (hc : c.all isDigit = true) (hhead : c.head? ≠ some '0') (hlen : a.length < c.length) :
    decimalValue a < decimalValue c := by
  cases c with
  | nil => exact absurd hlen (Nat.not_lt_zero _)
  | cons y r =>
    rw [List.all_cons, Bool.and_eq_true] at hc
    have hzero : y ≠ '0' := by simpa using hhead
    calc decimalValue a < 10 ^ a.length := decimalValue_lt ha
      _ ≤ 10 ^ r.length := Nat.pow_le_pow_right (by decide) (Nat.le_of_lt_succ hlen)
      _ ≤ decimalValue (y :: r) := pow_le_decimalValue hc.1 hzero

/-- Without leading zeros the length decides, and then the first digit that differs. -/
theorem compare_length_then {a c : List Char} (ha : a.all isDigit = true)
    (hc : c.all isDigit = true) (hheada : a.head? ≠ some '0') (hheadc : c.head? ≠ some '0') :
    (compare a.length c.length).then (List.compareLex compare a c) =
      compare (decimalValue a) (decimalValue c) := by
  rcases Nat.lt_trichotomy a.length c.length with h | h | h
  · have hlt := decimalValue_lt_of_length_lt ha hc hheadc h
    rw [Nat.compare_eq_lt.mpr h, Ordering.lt_then, Nat.compare_eq_lt.mpr hlt]
  · rw [h, Nat.compare_eq_eq.mpr rfl, Ordering.eq_then, compareLex_digits ha hc h]
  · have hlt := decimalValue_lt_of_length_lt hc ha hheada h
    rw [Nat.compare_eq_gt.mpr h, Ordering.gt_then, Nat.compare_eq_gt.mpr hlt]

/-- What is read as a word is a nonempty run of digits, a plus sign before it or not. -/
theorem digits_of_word? {s : List Char} {n : Nat} (h : word? s = some n) :
    ∃ ds, (s = ds ∨ s = '+' :: ds) ∧ ds ≠ [] ∧ ds.all isDigit = true ∧ decimalValue ds = n := by
  have hread (ds : List Char)
      (hds : (if !ds.isEmpty && ds.all isDigit && decimalValue ds < wordBound then
        some (decimalValue ds) else none) = some n) :
      ds ≠ [] ∧ ds.all isDigit = true ∧ decimalValue ds = n := by
    simp only [Option.ite_none_right_eq_some, Bool.and_eq_true, Bool.not_eq_true',
      List.isEmpty_eq_false_iff, Option.some.injEq] at hds
    exact ⟨hds.1.1.1, hds.1.1.2, hds.2⟩
  unfold word? numeral? at h
  split at h
  · rename_i r
    exact ⟨r, .inr rfl, hread r h⟩
  · exact ⟨s, .inl rfl, hread s h⟩

/-- A nonempty run of digits is read as a word exactly if its value fits. -/
theorem word?_digits {ds : List Char} (hne : ds ≠ []) (hall : ds.all isDigit = true) :
    word? ds = if decimalValue ds < wordBound then some (decimalValue ds) else none := by
  unfold word? numeral?
  split
  · cases hall
  · simp [hne, hall]

theorem word?_of_digits {ds : List Char} (hne : ds ≠ []) (hall : ds.all isDigit = true)
    (hlt : decimalValue ds < wordBound) : word? ds = some (decimalValue ds) := by
  rw [word?_digits hne hall, if_pos hlt]

end Oval.Text
