import Oval.Proofs.Evr.Token

/-! # The order of tokens is the order of segments

Whichever way two segments are compared, and whether they are read as characters or as the bytes
that encode them, what decides is their tokens: two texts are equal exactly if they have the same
ones, and reading numerals as numbers is only a short cut.
-/
namespace Oval.Evr

open Std (LawfulEqCmp TransCmp)

instance : LawfulEqCmp compareTokens where
  eq_of_compare {a c} h := by
    fun_induction compareTokens a c with
    | case1 => rfl
    | case2 | case3 | case4 | case5 | case7 | case8 | case10 | case11 => cases h
    | case6 a c ih => rw [ih h]
    | case9 x a y c ih =>
      obtain ⟨hrun, hrest⟩ := Ordering.then_eq_eq.mp h
      rw [LawfulEqCmp.eq_of_compare hrun, ih hrest]
    | case12 m a n c ih =>
      obtain ⟨hvalue, hrest⟩ := Ordering.then_eq_eq.mp h
      rw [Nat.compare_eq_eq.mp hvalue, ih hrest]

/-- The bytes of a text in UTF-8, each as the character with its code. -/
def bytes (s : List Char) : List Char := (s.flatMap String.utf8EncodeChar).map Char.ofUInt8

theorem toNat_ofUInt8 (b : UInt8) : (Char.ofUInt8 b).toNat = b.toNat := rfl

@[simp] theorem bytes_nil : bytes [] = [] := rfl

theorem bytes_cons (c : Char) (r : List Char) : bytes (c :: r) = bytes [c] ++ bytes r := by
  simp [bytes]

theorem bytes_ascii {c : Char} (h : c.toNat < 128) : bytes [c] = [c] := by
  have hval : c.val.toNat = c.toNat := rfl
  rw [bytes, List.flatMap_singleton, String.utf8EncodeChar, hval, if_pos (by omega),
    List.map_singleton]
  congr 1
  apply Char.toNat_inj.mp
  rw [toNat_ofUInt8, UInt8.toNat_ofNat']
  omega

theorem le_toNat_of_mem_bytes {c : Char} (h : 128 ≤ c.toNat) :
    ∀ x ∈ bytes [c], 128 ≤ x.toNat := by
  have hval : c.val.toNat = c.toNat := rfl
  rw [bytes, List.flatMap_singleton, List.forall_mem_map, String.utf8EncodeChar, hval,
    if_neg (by omega)]
  simp only [toNat_ofUInt8]
  split
  · simp
    omega
  · split
    · simp
      omega
    · simp
      omega

theorem bytes_singleton_ne_nil (c : Char) : bytes [c] ≠ [] := by
  simp [bytes, String.utf8EncodeChar_ne_nil]

theorem isSeparator_of_le_toNat {c : Char} (h : 128 ≤ c.toNat) : isSeparator c = true := by
  have hval : c.val.toNat = c.toNat := rfl
  have hz : 'z'.val.toNat = 122 := rfl
  have hZ : 'Z'.val.toNat = 90 := rfl
  refine isSeparator_iff.mpr ⟨?_, ?_, ?_⟩
  · rw [Bool.eq_false_iff]
    intro hdigit
    have hbound := (Text.isDigit_iff.mp hdigit).2
    omega
  · rw [Bool.eq_false_iff]
    simp only [isLetter, Bool.or_eq_true, Bool.and_eq_true, decide_eq_true_eq, Char.le_def,
      UInt32.le_iff_toNat_le, ne_eq, not_or, not_and, Nat.not_le]
    constructor <;> omega
  · rintro rfl
    exact absurd h (by decide)

theorem toNat_lt_of_not_isSeparator {c : Char} (h : isSeparator c = false) : c.toNat < 128 := by
  by_contra hlt
  rw [isSeparator_of_le_toNat (Nat.le_of_not_lt hlt)] at h
  cases h

/-- A run is the same in characters and in bytes, and so is what follows it. -/
theorem span_bytes {p : Char → Bool} (hp : ∀ c, p c = true → isSeparator c = false)
    (s : List Char) :
    (bytes s).takeWhile p = s.takeWhile p ∧ (bytes s).dropWhile p = bytes (s.dropWhile p) := by
  induction s with
  | nil => exact ⟨rfl, rfl⟩
  | cons c r ih =>
    by_cases hc : p c = true
    · rw [bytes_cons, bytes_ascii (toNat_lt_of_not_isSeparator (hp c hc)), List.singleton_append,
        List.takeWhile_cons_of_pos hc, List.takeWhile_cons_of_pos hc,
        List.dropWhile_cons_of_pos hc, List.dropWhile_cons_of_pos hc, ih.1, ih.2]
      exact ⟨rfl, rfl⟩
    · -- A character that ends the run has a first byte that does.
      have hfirst : ∃ x t, bytes [c] = x :: t ∧ ¬p x = true := by
        by_cases hascii : c.toNat < 128
        · exact ⟨c, [], bytes_ascii hascii, hc⟩
        · obtain ⟨x, t, hx⟩ := List.exists_cons_of_ne_nil (bytes_singleton_ne_nil c)
          refine ⟨x, t, hx, ?_⟩
          intro hpx
          have hlt := toNat_lt_of_not_isSeparator (hp x hpx)
          have hle := le_toNat_of_mem_bytes (Nat.le_of_not_lt hascii) x (by simp [hx])
          omega
      obtain ⟨x, t, hx, hpx⟩ := hfirst
      rw [bytes_cons, hx, List.cons_append, List.takeWhile_cons_of_neg hpx,
        List.takeWhile_cons_of_neg hc, List.dropWhile_cons_of_neg hpx,
        List.dropWhile_cons_of_neg hc, bytes_cons, hx]
      exact ⟨rfl, rfl⟩

theorem tokens_append_of_separators {s : List Char} (h : ∀ x ∈ s, isSeparator x = true)
    (r : List Char) : tokens (s ++ r) = tokens r := by
  induction s with
  | nil => rfl
  | cons x s ih =>
    obtain ⟨hx, hs⟩ := List.forall_mem_cons.mp h
    rw [List.cons_append, tokens_separator hx, ih hs]

/-- Reading bytes instead of characters makes no difference: outside ASCII both only separate. -/
theorem tokens_bytes (s : List Char) : tokens (bytes s) = tokens s := by
  fun_induction tokens s with
  | case1 => rw [bytes_nil, tokens_nil]
  | case2 r ih =>
    rw [bytes_cons, bytes_ascii (by decide), List.singleton_append, tokens_tilde, ih]
  | case3 c r hne hletter hlength ih =>
    obtain ⟨htake, hdrop⟩ :=
      span_bytes (p := isLetter) (fun x hx => by simp [isSeparator, hx]) (c :: r)
    have hascii : c.toNat < 128 := toNat_lt_of_not_isSeparator (by simp [isSeparator, hletter])
    rw [List.takeWhile_cons_of_pos hletter] at htake
    rw [List.dropWhile_cons_of_pos hletter] at hdrop
    rw [bytes_cons, bytes_ascii hascii, List.singleton_append] at htake hdrop ⊢
    rw [tokens_letter hletter, htake, hdrop, ih]
  | case4 c r hne hletter hdigit hlength ih =>
    obtain ⟨htake, hdrop⟩ :=
      span_bytes (p := Text.isDigit) (fun x hx => by simp [isSeparator, hx]) (c :: r)
    have hascii : c.toNat < 128 := toNat_lt_of_not_isSeparator (by simp [isSeparator, hdigit])
    rw [List.takeWhile_cons_of_pos hdigit] at htake
    rw [List.dropWhile_cons_of_pos hdigit] at hdrop
    rw [bytes_cons, bytes_ascii hascii, List.singleton_append] at htake hdrop ⊢
    rw [tokens_digit hdigit, htake, hdrop, ih]
  | case5 c r hne hletter hdigit ih =>
    have hseparators : ∀ x ∈ bytes [c], isSeparator x = true := by
      by_cases hascii : c.toNat < 128
      · rw [bytes_ascii hascii, List.forall_mem_singleton]
        simp [isSeparator, hne, hletter, hdigit]
      · intro x hx
        exact isSeparator_of_le_toNat (le_toNat_of_mem_bytes (Nat.le_of_not_lt hascii) x hx)
    rw [bytes_cons, tokens_append_of_separators hseparators, ih]

/-- Comparing run by run is comparing tokens: the directions reverse each other, not being greater
passes on and is less if it is so anywhere, and only texts with the same tokens are equal.  A text
may be any sequence of bytes, as characters with these codes; the bytes of two texts compare as the
texts do. -/
theorem compareRuns_token_order (a c : List Char) :
    compareRuns a c = compareTokens (tokens a) (tokens c) ∧
      compareRuns c a = (compareRuns a c).swap ∧
      (∀ d, compareRuns a c ≠ .gt → compareRuns c d ≠ .gt →
        compareRuns a d ≠ .gt ∧
          (compareRuns a c = .lt ∨ compareRuns c d = .lt → compareRuns a d = .lt)) ∧
      (compareRuns a c = .eq ↔ tokens a = tokens c) ∧
      compareRuns (bytes a) (bytes c) = compareRuns a c := by
  simp only [compareRuns_eq_compareTokens, tokens_bytes, true_and, and_true]
  refine ⟨Std.OrientedCmp.eq_swap, ?_, LawfulEqCmp.compare_eq_iff_eq⟩
  intro d hac hcd
  have hac' := Ordering.ne_gt_iff_isLE.mp hac
  have hcd' := Ordering.ne_gt_iff_isLE.mp hcd
  refine ⟨Ordering.ne_gt_iff_isLE.mpr (TransCmp.isLE_trans hac' hcd'), ?_⟩
  rintro (hlt | hlt)
  · exact TransCmp.lt_of_lt_of_isLE hlt hcd'
  · exact TransCmp.lt_of_isLE_of_lt hac' hlt

theorem compareRuns_token_order_release :
    compareRuns "1~rc".toList "1".toList = .lt ∧ compareRuns "1".toList "1.0a".toList = .lt ∧
      compareRuns "1~rc".toList "1.0a".toList = .lt := by
  have hfirst : compareRuns "1~rc".toList "1".toList = .lt := by cbv
  have hsecond : compareRuns "1".toList "1.0a".toList = .lt := by cbv
  obtain ⟨-, -, htrans, -⟩ := compareRuns_token_order "1~rc".toList "1".toList
  obtain ⟨-, hlt⟩ := htrans "1.0a".toList (by rw [hfirst]; decide) (by rw [hsecond]; decide)
  exact ⟨hfirst, hsecond, hlt (.inl hfirst)⟩

/-- Tilde, end, letters, digits. -/
example : compareRuns "1~rc".toList "1".toList = .lt ∧ compareRuns "1".toList "1é-a".toList = .lt ∧
    compareRuns "1a".toList "1_007".toList = .lt := by
  cbv

/-- Two segments compare run by run even where they compare as numbers, and a plus sign before a
segment changes nothing. -/
theorem compareSegments_eq_compareRuns (a c : List Char) :
    compareSegments a c = compareRuns a c ∧
      compareSegments ('+' :: a) c = compareSegments a c ∧
      compareSegments a ('+' :: c) = compareSegments a c := by
  have hplus (s : List Char) : tokens ('+' :: s) = tokens s := tokens_separator (by decide) s
  simp only [compareSegments_eq_compareTokens, compareRuns_eq_compareTokens, hplus, and_self]

/-- The greatest word against a numeral that is none any more. -/
example : compareSegments "+018446744073709551615".toList "18446744073709551616".toList = .lt := by
  cbv

end Oval.Evr
