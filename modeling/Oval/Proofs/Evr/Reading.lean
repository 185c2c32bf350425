import Oval.Evr.Order
import Oval.Proofs.Text.Decimal

/-! # What a comparison reads

A version text with an epoch always splits into its parts.  It can be read if its epoch is a word
and its version is not empty, and a comparison succeeds exactly if both its texts can be read.
-/
namespace Oval

theorem Text.cut?_append_cons {sep : Char} {a : List Char} (h : sep ∉ a) (b : List Char) :
    cut? sep (a ++ sep :: b) = some (a, b) := by
  induction a with
  | nil => simp [cut?]
  | cons c r ih =>
    rw [List.mem_cons, not_or] at h
    rw [List.cons_append, cut?, if_neg (Ne.symm h.1), ih h.2]
    rfl

theorem Text.getD_map_fst_cut? (sep : Char) (s : List Char) :
    ((cut? sep s).map Prod.fst).getD s = s.takeWhile (· ≠ sep) := by
  induction s with
  | nil => rfl
  | cons c r ih =>
    by_cases hc : c = sep
    · simp [cut?, hc]
    · rw [List.takeWhile_cons_of_pos (by simpa using hc), ← ih, cut?, if_neg hc]
      cases cut? sep r <;> rfl

theorem Text.getD_map_snd_cut? (sep : Char) (s : List Char) :
    ((cut? sep s).map Prod.snd).getD [] = (s.dropWhile (· ≠ sep)).tail := by
  induction s with
  | nil => rfl
  | cons c r ih =>
    by_cases hc : c = sep
    · simp [cut?, hc]
    · rw [List.dropWhile_cons_of_pos (by simpa using hc), ← ih, cut?, if_neg hc]
      cases cut? sep r <;> rfl

theorem Text.takeWhile_append_cons {p : Char → Bool} {c : Char} (hc : p c = false)
    (a b : List Char) : (a ++ c :: b).takeWhile p = a.takeWhile p := by
  induction a with
  | nil => simp [hc]
  | cons x a ih => by_cases hx : p x = true <;> simp [hx, ih]

theorem Text.dropWhile_append_cons {p : Char → Bool} {c : Char} (hc : p c = false)
    (a b : List Char) : (a ++ c :: b).dropWhile p = a.dropWhile p ++ c :: b := by
  induction a with
  | nil => simp [hc]
  | cons x a ih => by_cases hx : p x = true <;> simp [hx, ih]

namespace Evr

/-- The leading digits if a colon follows them, else zero. -/
def epochText (s : List Char) : List Char :=
  if hasEpoch s then s.takeWhile Text.isDigit else ['0']

/-- What follows the colon of the epoch, or the whole of a text without epoch. -/
def restText (s : List Char) : List Char :=
  if hasEpoch s then (s.dropWhile Text.isDigit).tail else s

/-- What stands before the first plus sign of the rest. -/
def versionText (s : List Char) : List Char := (restText s).takeWhile (· ≠ '+')

/-- What stands after the first plus sign of the rest. -/
def releaseText (s : List Char) : List Char := ((restText s).dropWhile (· ≠ '+')).tail

theorem normalize_eq (s : List Char) : normalize s = epochText s ++ ':' :: restText s := by
  unfold normalize epochText restText
  split
  · rename_i h
    simp only [hasEpoch, Bool.and_eq_true, decide_eq_true_eq] at h
    obtain ⟨r, hr⟩ := List.head?_eq_some_iff.mp h.2
    rw [hr, List.tail_cons, ← hr, List.takeWhile_append_dropWhile]
  · rfl

theorem digits_epochText (s : List Char) :
    epochText s ≠ [] ∧ (epochText s).all Text.isDigit = true := by
  unfold epochText
  split
  · rename_i h
    simp only [hasEpoch, Bool.and_eq_true, Bool.not_eq_true', List.isEmpty_eq_false_iff] at h
    exact ⟨h.1, List.all_takeWhile⟩
  · decide

/-- The first colon of a normalized text ends its epoch, which has digits only. -/
theorem cut?_normalize (s : List Char) :
    Text.cut? ':' (normalize s) = some (epochText s, restText s) := by
  rw [normalize_eq]
  apply Text.cut?_append_cons
  intro hmem
  have hdigit := List.all_eq_true.mp (digits_epochText s).2 ':' hmem
  cases hdigit

theorem hasEpoch_append_cons {c : Char} (hdigit : Text.isDigit c = false) (hcolon : c ≠ ':')
    (s t : List Char) : hasEpoch (s ++ c :: t) = hasEpoch s := by
  have hhead : (s.dropWhile Text.isDigit ++ c :: t).head? = some ':' ↔
      (s.dropWhile Text.isDigit).head? = some ':' := by
    cases s.dropWhile Text.isDigit <;> simp [hcolon]
  rw [hasEpoch, hasEpoch, Text.takeWhile_append_cons hdigit, Text.dropWhile_append_cons hdigit]
  simp only [hhead]

theorem epochText_append_cons {c : Char} (hdigit : Text.isDigit c = false) (hcolon : c ≠ ':')
    (s t : List Char) : epochText (s ++ c :: t) = epochText s := by
  rw [epochText, epochText, hasEpoch_append_cons hdigit hcolon, Text.takeWhile_append_cons hdigit]

theorem restText_append_cons {c : Char} (hdigit : Text.isDigit c = false) (hcolon : c ≠ ':')
    (s t : List Char) : restText (s ++ c :: t) = restText s ++ c :: t := by
  rw [restText, restText, hasEpoch_append_cons hdigit hcolon]
  split
  · rename_i h
    simp only [hasEpoch, Bool.and_eq_true, decide_eq_true_eq] at h
    obtain ⟨r, hr⟩ := List.head?_eq_some_iff.mp h.2
    rw [Text.dropWhile_append_cons hdigit, hr]
    rfl
  · rfl

def parts (s : String) : Evr := (split? (normalize s.toList)).getD ⟨[], [], []⟩

theorem parse_normalize (s : String) : parse (normalize s.toList) = .ok (parts s) := by
  obtain ⟨evr, h⟩ := Option.isSome_iff_exists.mp (split?_normalize_isSome s.toList)
  rw [parse, parts, h]
  rfl

theorem epoch_parts (s : String) : (parts s).epoch = epochText s.toList := by
  rw [parts, split?, cut?_normalize, Option.map_some, Option.getD_some]
  dsimp only
  split <;> rfl

theorem version_parts (s : String) : (parts s).version = versionText s.toList := by
  rw [parts, split?, cut?_normalize, Option.map_some, Option.getD_some, versionText,
    ← Text.getD_map_fst_cut?]
  dsimp only
  cases Text.cut? '+' (restText s.toList) <;> rfl

theorem release_parts (s : String) : (parts s).release = releaseText s.toList := by
  rw [parts, split?, cut?_normalize, Option.map_some, Option.getD_some, releaseText,
    ← Text.getD_map_snd_cut?]
  dsimp only
  cases Text.cut? '+' (restText s.toList) <;> rfl

theorem digits_epoch_parts (s : String) :
    (parts s).epoch ≠ [] ∧ (parts s).epoch.all Text.isDigit = true := by
  rw [epoch_parts]
  exact digits_epochText s.toList

/-- What is compared: the number of the epoch, the version, and the release or zero. -/
structure Reading where
  epoch : Nat
  version : List Char
  release : List Char

def reading? (s : String) : Option Reading :=
  match Text.word? (parts s).epoch with
  | some epoch =>
    if (parts s).version.isEmpty then none
    else some ⟨epoch, (parts s).version, releaseOrZero (parts s).release⟩
  | none => none

theorem reading?_of_word? {s : String} {n : Nat} (hepoch : Text.word? (parts s).epoch = some n)
    (hversion : (parts s).version ≠ []) :
    reading? s = some ⟨n, (parts s).version, releaseOrZero (parts s).release⟩ := by
  have hempty : ¬(parts s).version.isEmpty = true := mt List.isEmpty_iff.mp hversion
  unfold reading?
  split
  · rename_i m hm
    obtain rfl : m = n := Option.some.inj (hm.symm.trans hepoch)
    exact if_neg hempty
  · rename_i hnone
    cases hnone.symm.trans hepoch

theorem word?_of_reading? {s : String} {x : Reading} (h : reading? s = some x) :
    Text.word? (parts s).epoch = some x.epoch ∧ (parts s).version ≠ [] ∧
      x.version = (parts s).version ∧ x.release = releaseOrZero (parts s).release := by
  unfold reading? at h
  split at h
  · rename_i n hn
    split at h
    · cases h
    · rename_i hempty
      cases h
      exact ⟨hn, fun hnil => hempty (List.isEmpty_iff.mpr hnil), rfl, rfl⟩
  · cases h

/-- The order of readings: the first part that differs decides. -/
def Reading.order (x y : Reading) : Ordering :=
  ((Ord.compare x.epoch y.epoch).then (compareTexts x.version y.version)).then
    (compareTexts x.release y.release)

theorem compare_eq (a c : String) : compare a c = (do
    let m ← epochNumber (parts a).epoch
    let n ← epochNumber (parts c).epoch
    let version ← compareVersions (parts a).version (parts c).version
    pure {
      actual := String.ofList (normalize a.toList)
      expected := String.ofList (normalize c.toList)
      epoch := Ord.compare m n
      version
      release := compareTexts (releaseOrZero (parts a).release) (releaseOrZero (parts c).release) })
    := by
  rw [compare, parse_normalize, parse_normalize]
  rfl

/-- A comparison succeeds exactly if both texts can be read, and then compares the readings. -/
theorem ordering_eq_ok_iff {a c : String} {o : Ordering} :
    ordering a c = .ok o ↔
      ∃ x y, reading? a = some x ∧ reading? c = some y ∧ x.order y = o := by
  rw [ordering, compare_eq]
  unfold epochNumber compareVersions reading?
  cases Text.word? (parts a).epoch with
  | none => simp [bind, Except.bind, Except.map]
  | some m =>
    cases Text.word? (parts c).epoch with
    | none => simp [bind, Except.bind, Except.map]
    | some n =>
      by_cases ha : (parts a).version.isEmpty = true
      · simp [ha, bind, Except.bind, Except.map]
      · by_cases hc : (parts c).version.isEmpty = true
        · simp [hc, bind, Except.bind, Except.map]
        · simp [ha, hc, bind, Except.bind, Except.map, pure, Except.pure, Comparison.ordering,
            Reading.order]

end Evr
end Oval
