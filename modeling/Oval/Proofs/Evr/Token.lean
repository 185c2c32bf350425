import Mathlib.Data.List.TakeWhile
import Oval.Evr.Token
import Oval.Proofs.Text.Decimal

/-! # Comparing segments by their tokens

Going through two segments run by run comes to comparing their token lists, and so does comparing
them as numerals.  With a mark at its end a token list is compared place by place, so the order of
segments is a total preorder, whichever way two segments are compared.
-/
namespace Oval.Evr

open Std (TransCmp)

theorem isSeparator_iff {c : Char} :
    isSeparator c = true ↔ Text.isDigit c = false ∧ isLetter c = false ∧ c ≠ '~' := by
  simp [isSeparator, and_assoc]

theorem isLetter_of_isDigit {c : Char} (h : Text.isDigit c = true) : isLetter c = false := by
  have hc := Text.isDigit_iff.mp h
  rw [Bool.eq_false_iff]
  simp only [isLetter, Bool.or_eq_true, Bool.and_eq_true, decide_eq_true_eq, Char.le_def,
    UInt32.le_iff_toNat_le, ne_eq, not_or, not_and, Nat.not_le]
  have hval : c.val.toNat = c.toNat := rfl
  have hA : 'A'.val.toNat = 65 := rfl
  have ha : 'a'.val.toNat = 97 := rfl
  constructor <;> omega

theorem isSeparator_of_skipSeparators {s r : List Char} {x : Char}
    (h : skipSeparators s = x :: r) : isSeparator x = false := by
  have hhead := List.head?_dropWhile_not isSeparator s
  rw [← skipSeparators, h] at hhead
  exact hhead

theorem isLetter_of_not_isDigit {s r : List Char} {x : Char} (h : skipSeparators s = x :: r)
    (hne : x ≠ '~') (hdigit : ¬Text.isDigit x = true) : isLetter x = true := by
  have hsep := isSeparator_of_skipSeparators h
  simpa [isSeparator, hne, hdigit] using hsep

@[simp] theorem tokens_nil : tokens [] = [] := by rw [tokens]

theorem tokens_tilde (r : List Char) : tokens ('~' :: r) = .tilde :: tokens r := by
  rw [tokens, if_pos rfl]

theorem tokens_letter {c : Char} (h : isLetter c = true) (r : List Char) :
    tokens (c :: r) = .letters ((c :: r).takeWhile isLetter) ::
      tokens ((c :: r).dropWhile isLetter) := by
  have hne : c ≠ '~' := by
    rintro rfl
    cases h
  rw [tokens, if_neg hne, if_pos h, List.takeWhile_cons_of_pos h, List.dropWhile_cons_of_pos h]

theorem tokens_digit {c : Char} (h : Text.isDigit c = true) (r : List Char) :
    tokens (c :: r) = .digits (Text.decimalValue ((c :: r).takeWhile Text.isDigit)) ::
      tokens ((c :: r).dropWhile Text.isDigit) := by
  have hne : c ≠ '~' := by
    rintro rfl
    cases h
  have hletter : ¬isLetter c = true := Bool.eq_false_iff.mp (isLetter_of_isDigit h)
  rw [tokens, if_neg hne, if_neg hletter, if_pos h, List.takeWhile_cons_of_pos h,
    List.dropWhile_cons_of_pos h]

theorem tokens_separator {c : Char} (h : isSeparator c = true) (r : List Char) :
    tokens (c :: r) = tokens r := by
  obtain ⟨hdigit, hletter, hne⟩ := isSeparator_iff.mp h
  rw [tokens, if_neg hne, if_neg (Bool.eq_false_iff.mp hletter),
    if_neg (Bool.eq_false_iff.mp hdigit)]

theorem tokens_skipSeparators (s : List Char) : tokens (skipSeparators s) = tokens s := by
  induction s with
  | nil => rfl
  | cons c r ih =>
    rw [skipSeparators]
    by_cases hc : isSeparator c = true
    · rw [List.dropWhile_cons_of_pos hc, tokens_separator hc]
      exact ih
    · rw [List.dropWhile_cons_of_neg hc]

theorem compareDigits_eq {a c : List Char} (ha : a.all Text.isDigit = true)
    (hc : c.all Text.isDigit = true) :
    compareDigits a c = compare (Text.decimalValue a) (Text.decimalValue c) := by
  rw [compareDigits, ← Text.decimalValue_dropWhile_zero a, ← Text.decimalValue_dropWhile_zero c]
  exact Text.compare_length_then (Text.all_dropWhile_zero ha) (Text.all_dropWhile_zero hc)
    (Text.head?_dropWhile_zero a) (Text.head?_dropWhile_zero c)

theorem exists_tokens_eq_cons {s r : List Char} {x : Char} (h : skipSeparators s = x :: r)
    (hne : x ≠ '~') : ∃ t ts, tokens s = t :: ts ∧ t ≠ .tilde := by
  rw [← tokens_skipSeparators s, h]
  by_cases hdigit : Text.isDigit x = true
  · exact ⟨_, _, tokens_digit hdigit r, Token.noConfusion⟩
  · exact ⟨_, _, tokens_letter (isLetter_of_not_isDigit h hne hdigit) r, Token.noConfusion⟩

theorem compareTokens_end {t : Token} (h : t ≠ .tilde) (ts : List Token) :
    compareTokens [] (t :: ts) = .lt ∧ compareTokens (t :: ts) [] = .gt := by
  cases t with
  | tilde => exact absurd rfl h
  | letters run => exact ⟨rfl, rfl⟩
  | digits value => exact ⟨rfl, rfl⟩

theorem compareTokens_tilde {t : Token} (h : t ≠ .tilde) (ts us : List Token) :
    compareTokens (.tilde :: us) (t :: ts) = .lt ∧
      compareTokens (t :: ts) (.tilde :: us) = .gt := by
  cases t with
  | tilde => exact absurd rfl h
  | letters run => exact ⟨rfl, rfl⟩
  | digits value => exact ⟨rfl, rfl⟩

/-- Going through two texts run by run comes to comparing their tokens. -/
theorem compareRuns_eq_compareTokens (a c : List Char) :
    compareRuns a c = compareTokens (tokens a) (tokens c) := by
  fun_induction compareRuns a c with
  | case1 a c ha hc =>
    rw [← tokens_skipSeparators a, ← tokens_skipSeparators c, ha, hc, tokens_nil]
    rfl
  | case2 a c c' ha hc =>
    rw [← tokens_skipSeparators a, ← tokens_skipSeparators c, ha, hc, tokens_nil, tokens_tilde]
    rfl
  | case3 a c y c' ha hc hy =>
    obtain ⟨t, ts, htokens, ht⟩ := exists_tokens_eq_cons hc hy
    rw [← tokens_skipSeparators a, ha, tokens_nil, htokens, (compareTokens_end ht ts).1]
  | case4 a c a' hc ha =>
    rw [← tokens_skipSeparators a, ← tokens_skipSeparators c, ha, hc, tokens_nil, tokens_tilde]
    rfl
  | case5 a c x a' ha hc hx =>
    obtain ⟨t, ts, htokens, ht⟩ := exists_tokens_eq_cons ha hx
    rw [← tokens_skipSeparators c, hc, tokens_nil, htokens, (compareTokens_end ht ts).2]
  | case6 a c a' c' ha hc ih =>
    rw [← tokens_skipSeparators a, ← tokens_skipSeparators c, ha, hc, tokens_tilde, tokens_tilde,
      ih]
    rfl
  | case7 a c a' y c' hc hy ha =>
    obtain ⟨t, ts, htokens, ht⟩ := exists_tokens_eq_cons hc hy
    rw [← tokens_skipSeparators a, ha, tokens_tilde, htokens, (compareTokens_tilde ht ts _).1]
  | case8 a c x a' c' ha hx hc =>
    obtain ⟨t, ts, htokens, ht⟩ := exists_tokens_eq_cons ha hx
    rw [← tokens_skipSeparators c, hc, tokens_tilde, htokens, (compareTokens_tilde ht ts _).2]
  | case9 a c x a' y c' ha hc _ _ hdigits ih =>
    rw [← tokens_skipSeparators a, ← tokens_skipSeparators c, ha, hc, tokens_digit hdigits.1,
      tokens_digit hdigits.2, compareTokens, ih,
      compareDigits_eq List.all_takeWhile List.all_takeWhile]
  | case10 a c x a' y c' ha hc _ hy hdigits hx =>
    have hletter := isLetter_of_not_isDigit hc hy fun h => hdigits ⟨hx, h⟩
    rw [← tokens_skipSeparators a, ← tokens_skipSeparators c, ha, hc, tokens_digit hx,
      tokens_letter hletter, compareTokens]
  | case11 a c x a' y c' ha hc hx _ _ hdigit hy =>
    have hletter := isLetter_of_not_isDigit ha hx hdigit
    rw [← tokens_skipSeparators a, ← tokens_skipSeparators c, ha, hc, tokens_letter hletter,
      tokens_digit hy, compareTokens]
  | case12 a c x a' y c' ha hc _ _ _ _ _ hletters ih =>
    rw [← tokens_skipSeparators a, ← tokens_skipSeparators c, ha, hc, tokens_letter hletters.1,
      tokens_letter hletters.2, compareTokens, ih]
  | case13 a c x a' y c' ha hc hx hy _ hxdigit hydigit hletters =>
    exact absurd ⟨isLetter_of_not_isDigit ha hx hxdigit, isLetter_of_not_isDigit hc hy hydigit⟩
      hletters

/-- What decides at a place of a token list: the kind of what stands there, then the run, then the
value. -/
structure Key where
  kind : Nat
  run : List Char := []
  value : Nat := 0

namespace Key

/-- The key of a place; `none` is the end of the list. -/
def ofToken? : Option Token → Key
  | some .tilde => { kind := 0 }
  | none => { kind := 1 }
  | some (.letters run) => { kind := 2, run }
  | some (.digits value) => { kind := 3, value }

def ofTokens (ts : List Token) : List Key := ts.map (fun t => ofToken? (some t)) ++ [ofToken? none]

def compare : Key → Key → Ordering :=
  compareLex (compareOn kind) (compareLex (compareOn run) (compareOn value))

instance : TransCmp compare :=
  inferInstanceAs
    (TransCmp (compareLex (compareOn kind) (compareLex (compareOn run) (compareOn value))))

@[simp] theorem ofTokens_nil : ofTokens [] = [ofToken? none] := rfl

@[simp] theorem ofTokens_cons (t : Token) (ts : List Token) :
    ofTokens (t :: ts) = ofToken? (some t) :: ofTokens ts := rfl

theorem compare_of_lt {x y : Key} (h : x.kind < y.kind) : compare x y = .lt := by
  rw [compare, compareLex, compareOn, Nat.compare_eq_lt.mpr h, Ordering.lt_then]

theorem compare_of_gt {x y : Key} (h : y.kind < x.kind) : compare x y = .gt := by
  rw [compare, compareLex, compareOn, Nat.compare_eq_gt.mpr h, Ordering.gt_then]

theorem compare_letters (x y : List Char) :
    compare (ofToken? (some (.letters x))) (ofToken? (some (.letters y))) =
      List.compareLex Ord.compare x y := by
  simp [compare, compareLex, compareOn, ofToken?]
  rfl

theorem compare_digits (m n : Nat) :
    compare (ofToken? (some (.digits m))) (ofToken? (some (.digits n))) = Ord.compare m n := by
  simp [compare, compareLex, compareOn, ofToken?]

theorem kind_end_lt {t : Token} (h : t ≠ .tilde) : 1 < (ofToken? (some t)).kind := by
  cases t with
  | tilde => exact absurd rfl h
  | letters run => exact Nat.lt_succ_self 1
  | digits value => exact Nat.lt_of_lt_of_le Nat.one_lt_two (Nat.le_succ 2)

end Key

/-- Place by place, ends included, the keys decide. -/
theorem compareTokens_eq_compareLex (a c : List Token) :
    compareTokens a c = List.compareLex Key.compare (Key.ofTokens a) (Key.ofTokens c) := by
  fun_induction compareTokens a c with
  | case1 => rfl
  | case2 => rfl
  | case3 t ts ht =>
    rw [Key.ofTokens_nil, Key.ofTokens_cons, List.compareLex_cons_cons,
      Key.compare_of_lt (Key.kind_end_lt ht), Ordering.lt_then]
  | case4 => rfl
  | case5 t ts ht =>
    rw [Key.ofTokens_nil, Key.ofTokens_cons, List.compareLex_cons_cons,
      Key.compare_of_gt (Key.kind_end_lt ht), Ordering.gt_then]
  | case6 a c ih =>
    have hself (k : Key) : Key.compare k k = .eq := Std.ReflCmp.compare_self
    rw [Key.ofTokens_cons, Key.ofTokens_cons, List.compareLex_cons_cons, hself, Ordering.eq_then,
      ih]
  | case7 us t ts ht =>
    rw [Key.ofTokens_cons, Key.ofTokens_cons, List.compareLex_cons_cons,
      Key.compare_of_lt (Nat.lt_trans Nat.zero_lt_one (Key.kind_end_lt ht)), Ordering.lt_then]
  | case8 t ts us ht =>
    rw [Key.ofTokens_cons, Key.ofTokens_cons, List.compareLex_cons_cons,
      Key.compare_of_gt (Nat.lt_trans Nat.zero_lt_one (Key.kind_end_lt ht)), Ordering.gt_then]
  | case9 x a y c ih =>
    rw [Key.ofTokens_cons, Key.ofTokens_cons, List.compareLex_cons_cons, Key.compare_letters, ih]
  | case10 => rfl
  | case11 => rfl
  | case12 m a n c ih =>
    rw [Key.ofTokens_cons, Key.ofTokens_cons, List.compareLex_cons_cons, Key.compare_digits, ih]

instance : TransCmp compareTokens where
  eq_swap {a c} := by
    rw [compareTokens_eq_compareLex, compareTokens_eq_compareLex]
    exact Std.OrientedCmp.eq_swap
  isLE_trans {a b c} hab hbc := by
    rw [compareTokens_eq_compareLex] at hab hbc ⊢
    exact TransCmp.isLE_trans hab hbc

/-- A numeral, a plus sign before it or not, is a single token: its value. -/
theorem tokens_of_word? {s : List Char} {n : Nat} (h : Text.word? s = some n) :
    tokens s = [.digits n] := by
  obtain ⟨ds, hs, hne, hall, rfl⟩ := Text.digits_of_word? h
  have htokens : tokens ds = [.digits (Text.decimalValue ds)] := by
    cases ds with
    | nil => exact absurd rfl hne
    | cons c r =>
      have hmem : ∀ x ∈ c :: r, Text.isDigit x = true := List.all_eq_true.mp hall
      rw [tokens_digit (hmem c List.mem_cons_self), List.takeWhile_eq_self_iff.mpr hmem,
        List.dropWhile_eq_nil_iff.mpr hmem, tokens_nil]
  rcases hs with rfl | rfl
  · exact htokens
  · rw [tokens_separator (by decide), htokens]

/-- Two segments compare by their tokens, whether as numerals or run by run. -/
theorem compareSegments_eq_compareTokens (a c : List Char) :
    compareSegments a c = compareTokens (tokens a) (tokens c) := by
  unfold compareSegments
  split
  · rename_i m n ha hc
    rw [tokens_of_word? ha, tokens_of_word? hc, compareTokens, compareTokens, Ordering.then_eq]
  · exact compareRuns_eq_compareTokens a c

instance : TransCmp compareSegments where
  eq_swap {a c} := by
    rw [compareSegments_eq_compareTokens, compareSegments_eq_compareTokens]
    exact Std.OrientedCmp.eq_swap
  isLE_trans {a b c} hab hbc := by
    rw [compareSegments_eq_compareTokens] at hab hbc ⊢
    exact TransCmp.isLE_trans hab hbc

end Oval.Evr
