import Mathlib.Data.List.DropRight
import Oval.Proofs.Evr.Reading
import Oval.Proofs.Evr.Token

/-! # Spellings of a version

A version text may have leading zeros in every number, no epoch and no release.  Its canonical
spelling has none of this freedom, and comparing does not see the difference: leading zeros leave
the tokens of a segment as they are, no cut falls inside a number, and what is left out counts as
zero.
-/
namespace Oval

namespace Text

/-- A run of digits without its leading zeros; of zeros alone one is left. -/
def unpadRun (run : List Char) : List Char :=
  if run.all (· = '0') then ['0'] else run.dropWhile (· = '0')

/-- The text with every maximal run of digits unpadded. -/
def unpad : List Char → List Char
  | [] => []
  | c :: r =>
    if isDigit c then
      have := Evr.length_dropWhile_le isDigit r
      unpadRun (c :: r.takeWhile isDigit) ++ unpad (r.dropWhile isDigit)
    else c :: unpad r
termination_by s => s.length

theorem unpadRun_ne_nil (run : List Char) : unpadRun run ≠ [] := by
  unfold unpadRun
  split
  · simp
  · rename_i h
    simpa [List.dropWhile_eq_nil_iff] using h

theorem decimalValue_unpadRun (run : List Char) :
    decimalValue (unpadRun run) = decimalValue run := by
  unfold unpadRun
  split
  · rename_i h
    have hnil : run.dropWhile (· = '0') = [] := by simpa [List.dropWhile_eq_nil_iff] using h
    rw [← decimalValue_dropWhile_zero run, hnil]
    rfl
  · exact decimalValue_dropWhile_zero run

theorem mem_of_mem_unpadRun {run : List Char} (hne : run ≠ []) {x : Char} (h : x ∈ unpadRun run) :
    x ∈ run := by
  unfold unpadRun at h
  split at h
  · rename_i hzero
    obtain ⟨c, r, rfl⟩ := List.exists_cons_of_ne_nil hne
    have hc : c = '0' := by simpa using List.all_eq_true.mp hzero c List.mem_cons_self
    rw [List.mem_singleton.mp h, ← hc]
    exact List.mem_cons_self
  · exact (List.dropWhile_suffix _).subset h

theorem all_isDigit_unpadRun {run : List Char} (hne : run ≠ []) (hall : run.all isDigit = true) :
    (unpadRun run).all isDigit = true := by
  rw [List.all_eq_true] at hall ⊢
  exact fun x hx => hall x (mem_of_mem_unpadRun hne hx)

@[simp] theorem unpad_nil : unpad [] = [] := by rw [unpad]

theorem unpad_digit {c : Char} (h : isDigit c = true) (r : List Char) :
    unpad (c :: r) =
      unpadRun ((c :: r).takeWhile isDigit) ++ unpad ((c :: r).dropWhile isDigit) := by
  rw [unpad, if_pos h, List.takeWhile_cons_of_pos h, List.dropWhile_cons_of_pos h]

theorem unpad_of_not_isDigit {c : Char} (h : isDigit c = false) (r : List Char) :
    unpad (c :: r) = c :: unpad r := by
  rw [unpad, if_neg (Bool.eq_false_iff.mp h)]

theorem takeWhile_isDigit_ne_nil {c : Char} (h : isDigit c = true) (r : List Char) :
    (c :: r).takeWhile isDigit ≠ [] := by
  rw [List.takeWhile_cons_of_pos h]
  exact List.cons_ne_nil _ _

theorem exists_unpad_eq_cons {c : Char} (h : isDigit c = true) (r : List Char) :
    ∃ x t, unpad (c :: r) = x :: t ∧ isDigit x = true := by
  have hne := takeWhile_isDigit_ne_nil h r
  obtain ⟨x, t, hx⟩ := List.exists_cons_of_ne_nil (unpadRun_ne_nil ((c :: r).takeWhile isDigit))
  refine ⟨x, t ++ unpad ((c :: r).dropWhile isDigit), ?_, ?_⟩
  · rw [unpad_digit h, hx, List.cons_append]
  · have hall := all_isDigit_unpadRun hne List.all_takeWhile
    rw [hx] at hall
    exact List.all_eq_true.mp hall x List.mem_cons_self

theorem unpad_eq_nil_iff {s : List Char} : unpad s = [] ↔ s = [] := by
  constructor
  · intro h
    cases s with
    | nil => rfl
    | cons c r =>
      by_cases hc : isDigit c = true
      · obtain ⟨x, t, hx, -⟩ := exists_unpad_eq_cons hc r
        cases hx.symm.trans h
      · rw [unpad_of_not_isDigit (Bool.eq_false_iff.mpr hc)] at h
        cases h
  · rintro rfl
    exact unpad_nil

theorem mem_of_mem_unpad {x : Char} {s : List Char} (h : x ∈ unpad s) : x ∈ s := by
  fun_induction unpad s with
  | case1 => exact h
  | case2 c r _ _ ih =>
    rw [List.mem_cons, ← List.takeWhile_append_dropWhile (p := isDigit) (l := r), List.mem_append,
      ← or_assoc, ← List.mem_cons]
    exact (List.mem_append.mp h).imp (mem_of_mem_unpadRun (List.cons_ne_nil _ _)) ih
  | case3 c r _ ih => exact List.mem_cons.mpr ((List.mem_cons.mp h).imp_right ih)

/-- A character that is no digit ends a run, so the two sides of it are unpadded by themselves. -/
theorem unpad_append_cons {c : Char} (hc : isDigit c = false) (a b : List Char) :
    unpad (a ++ c :: b) = unpad a ++ c :: unpad b := by
  fun_induction unpad a with
  | case1 => exact unpad_of_not_isDigit hc b
  | case2 x r hx _ ih =>
    rw [List.cons_append, unpad_digit hx, ← List.cons_append, takeWhile_append_cons hc,
      dropWhile_append_cons hc, List.takeWhile_cons_of_pos hx, List.dropWhile_cons_of_pos hx, ih,
      List.append_assoc]
  | case3 x r hx ih =>
    rw [List.cons_append, unpad_of_not_isDigit (Bool.eq_false_iff.mpr hx), ih, List.cons_append]

theorem takeWhile_unpad {p : Char → Bool} (hp : ∀ c, isDigit c = true → p c = false)
    (s : List Char) : (unpad s).takeWhile p = s.takeWhile p := by
  induction s with
  | nil => rw [unpad_nil]
  | cons c r ih =>
    by_cases hc : isDigit c = true
    · obtain ⟨x, t, hx, hdigit⟩ := exists_unpad_eq_cons hc r
      rw [hx, List.takeWhile_cons_of_neg (Bool.eq_false_iff.mp (hp x hdigit)),
        List.takeWhile_cons_of_neg (Bool.eq_false_iff.mp (hp c hc))]
    · rw [unpad_of_not_isDigit (Bool.eq_false_iff.mpr hc), List.takeWhile_cons,
        List.takeWhile_cons, ih]

theorem dropWhile_unpad {p : Char → Bool} (hp : ∀ c, isDigit c = true → p c = false)
    (s : List Char) : (unpad s).dropWhile p = unpad (s.dropWhile p) := by
  induction s with
  | nil => rw [unpad_nil, List.dropWhile_nil, unpad_nil]
  | cons c r ih =>
    by_cases hc : isDigit c = true
    · obtain ⟨x, t, hx, hdigit⟩ := exists_unpad_eq_cons hc r
      rw [hx, List.dropWhile_cons_of_neg (Bool.eq_false_iff.mp (hp x hdigit)),
        List.dropWhile_cons_of_neg (Bool.eq_false_iff.mp (hp c hc)), hx]
    · have hcons := unpad_of_not_isDigit (Bool.eq_false_iff.mpr hc) r
      rw [hcons, List.dropWhile_cons, List.dropWhile_cons, ih]
      split
      · rfl
      · exact hcons.symm

theorem takeWhile_dropWhile_isDigit (s : List Char) :
    (s.dropWhile isDigit).takeWhile isDigit = [] := by
  have happend := List.takeWhile_append_dropWhile (p := isDigit) (l := s.dropWhile isDigit)
  rw [List.dropWhile_idempotent] at happend
  simpa using happend

theorem takeWhile_isDigit_unpad {s : List Char} (h : s.takeWhile isDigit = []) :
    (unpad s).takeWhile isDigit = [] := by
  cases s with
  | nil => rw [unpad_nil, List.takeWhile_nil]
  | cons c r =>
    have hc : isDigit c = false := by
      by_contra hc
      exact takeWhile_isDigit_ne_nil (Bool.not_eq_false _ ▸ hc) r h
    rw [unpad_of_not_isDigit hc, List.takeWhile_cons_of_neg (Bool.eq_false_iff.mp hc)]

theorem pieces_of_not_mem {sep : Char} {s : List Char} (h : sep ∉ s) : pieces sep s = [s] := by
  rw [pieces_eq_splitOn, List.splitOn_eq_singleton h]

theorem pieces_append_cons {sep : Char} {a : List Char} (h : sep ∉ a) (b : List Char) :
    pieces sep (a ++ sep :: b) = a :: pieces sep b := by
  rw [pieces_eq_splitOn, pieces_eq_splitOn, List.splitOn_append_cons_self_of_not_mem h]

/-- No cut falls inside a run of digits. -/
theorem pieces_unpad {sep : Char} (hsep : isDigit sep = false) (s : List Char) :
    pieces sep (unpad s) = (pieces sep s).map unpad := by
  induction hlen : s.length using Nat.strong_induction_on generalizing s with
  | _ n ih =>
    by_cases hmem : sep ∈ s
    · obtain ⟨a, b, rfl, hnot⟩ := List.eq_append_cons_of_mem hmem
      have hlt : b.length < n := by
        rw [← hlen, List.length_append, List.length_cons]
        omega
      rw [unpad_append_cons hsep, pieces_append_cons (mt mem_of_mem_unpad hnot),
        pieces_append_cons hnot, List.map_cons, ih b.length hlt b rfl]
    · rw [pieces_of_not_mem hmem, pieces_of_not_mem (mt mem_of_mem_unpad hmem), List.map_singleton]

end Text

namespace Evr

/-- A run of digits that ends where it does is one token. -/
theorem tokens_append_digits {run t : List Char} (hne : run ≠ [])
    (hall : run.all Text.isDigit = true) (ht : t.takeWhile Text.isDigit = []) :
    tokens (run ++ t) = .digits (Text.decimalValue run) :: tokens t := by
  have hmem : ∀ x ∈ run, Text.isDigit x = true := List.all_eq_true.mp hall
  have hdrop : t.dropWhile Text.isDigit = t := by
    have happend := List.takeWhile_append_dropWhile (p := Text.isDigit) (l := t)
    rwa [ht, List.nil_append] at happend
  obtain ⟨c, r, rfl⟩ := List.exists_cons_of_ne_nil hne
  rw [List.cons_append, tokens_digit (hmem c List.mem_cons_self), ← List.cons_append,
    List.takeWhile_append_of_pos hmem, List.dropWhile_append_of_pos hmem, ht, hdrop,
    List.append_nil]

/-- A number is one token, however it is padded. -/
theorem tokens_unpad (s : List Char) : tokens (Text.unpad s) = tokens s := by
  have hletter (c : Char) (h : Text.isDigit c = true) : isLetter c = false := isLetter_of_isDigit h
  fun_induction tokens s with
  | case1 => rw [Text.unpad_nil, tokens_nil]
  | case2 r ih => rw [Text.unpad_of_not_isDigit rfl, tokens_tilde, ih]
  | case3 c r _ hc _ ih =>
    have hdigit : Text.isDigit c = false := by
      by_contra h
      rw [hletter c (Bool.not_eq_false _ ▸ h)] at hc
      cases hc
    rw [Text.unpad_of_not_isDigit hdigit, tokens_letter hc, List.takeWhile_cons_of_pos hc,
      List.dropWhile_cons_of_pos hc, Text.takeWhile_unpad hletter, Text.dropWhile_unpad hletter, ih]
  | case4 c r _ _ hc _ ih =>
    have hne := Text.takeWhile_isDigit_ne_nil hc r
    have hrest := Text.takeWhile_dropWhile_isDigit (c :: r)
    rw [Text.unpad_digit hc, tokens_append_digits (Text.unpadRun_ne_nil _)
      (Text.all_isDigit_unpadRun hne List.all_takeWhile) (Text.takeWhile_isDigit_unpad hrest),
      Text.decimalValue_unpadRun, List.takeWhile_cons_of_pos hc, List.dropWhile_cons_of_pos hc, ih]
  | case5 c r hne hletter' hdigit ih =>
    have hsep : isSeparator c = true := by simp [isSeparator, hne, hletter', hdigit]
    rw [Text.unpad_of_not_isDigit (Bool.eq_false_iff.mpr hdigit), tokens_separator hsep, ih]

/-- A change of spelling: every segment keeps its tokens, and every piece is spelt by itself. -/
structure IsSpelling (f : List Char → List Char) : Prop where
  tokens_eq : ∀ s, tokens (f s) = tokens s
  dashes_eq : ∀ s, Text.pieces '-' (f s) = (Text.pieces '-' s).map f
  dots_eq : ∀ s, Text.pieces '.' (f s) = (Text.pieces '.' s).map f

theorem isSpelling_id : IsSpelling id where
  tokens_eq _ := rfl
  dashes_eq _ := (List.map_id _).symm
  dots_eq _ := (List.map_id _).symm

theorem isSpelling_unpad : IsSpelling Text.unpad where
  tokens_eq := tokens_unpad
  dashes_eq := Text.pieces_unpad rfl
  dots_eq := Text.pieces_unpad rfl

section Spelling

variable {f g : List Char → List Char} (hf : IsSpelling f) (hg : IsSpelling g)

include hf hg

theorem compareDots_map (as cs : List (List Char)) :
    compareDots (as.map f) (cs.map g) = compareDots as cs := by
  induction as generalizing cs with
  | nil => rfl
  | cons a as ih =>
    cases cs with
    | nil => rfl
    | cons c cs =>
      rw [List.map_cons, List.map_cons, compareDots, compareDots, ih,
        compareSegments_eq_compareTokens, compareSegments_eq_compareTokens, hf.tokens_eq,
        hg.tokens_eq]

theorem compareDashes_map (as cs : List (List Char)) :
    compareDashes (as.map f) (cs.map g) = compareDashes as cs := by
  induction as generalizing cs with
  | nil => rfl
  | cons a as ih =>
    cases cs with
    | nil => rfl
    | cons c cs =>
      rw [List.map_cons, List.map_cons, compareDashes, compareDashes, ih, hf.dots_eq, hg.dots_eq,
        compareDots_map hf hg]

theorem compareTexts_spelling (a c : List Char) : compareTexts (f a) (g c) = compareTexts a c := by
  rw [compareTexts, hf.dashes_eq, hg.dashes_eq, compareDashes_map hf hg, compareTexts]

end Spelling

namespace Reading

def respell (f : List Char → List Char) (x : Reading) : Reading :=
  { x with version := f x.version, release := f x.release }

theorem order_respell {f g : List Char → List Char} (hf : IsSpelling f) (hg : IsSpelling g)
    (x y : Reading) : (x.respell f).order (y.respell g) = x.order y := by
  simp only [order, respell, compareTexts_spelling hf hg]

end Reading

/-- The second text is read as the first one, spelt anew. -/
def Respelt (f : List Char → List Char) (s s' : String) : Prop :=
  reading? s' = (reading? s).map (Reading.respell f)

theorem respelt_self (s : String) : Respelt id s s := by
  unfold Respelt
  cases reading? s <;> rfl

/-- Spelling decides nothing, neither on one side nor on both. -/
theorem ordering_eq_ok_iff_of_respelt {f g : List Char → List Char} (hf : IsSpelling f)
    (hg : IsSpelling g) {a a' c c' : String} (ha : Respelt f a a') (hc : Respelt g c c')
    (o : Ordering) : ordering a' c' = .ok o ↔ ordering a c = .ok o := by
  rw [ordering_eq_ok_iff, ordering_eq_ok_iff, ha, hc]
  constructor
  · rintro ⟨_, _, hx', hy', rfl⟩
    obtain ⟨x, hx, rfl⟩ := Option.map_eq_some_iff.mp hx'
    obtain ⟨y, hy, rfl⟩ := Option.map_eq_some_iff.mp hy'
    exact ⟨x, y, hx, hy, (x.order_respell hf hg y).symm⟩
  · rintro ⟨x, y, hx, hy, rfl⟩
    exact ⟨x.respell f, y.respell g, by rw [hx]; rfl, by rw [hy]; rfl, x.order_respell hf hg y⟩

/-- The epoch or zero, the version, and the release or zero, without padding in any of them. -/
def canonical (s : String) : String :=
  String.ofList (Text.unpadRun (epochText s.toList) ++ ':' ::
    (Text.unpad (versionText s.toList) ++
      '+' :: Text.unpad (releaseOrZero (releaseText s.toList))))

theorem parts_of_notation {epoch version release : List Char} (hne : epoch ≠ [])
    (hall : epoch.all Text.isDigit = true) (hplus : '+' ∉ version) :
    parts (String.ofList (epoch ++ ':' :: (version ++ '+' :: release))) =
      ⟨epoch, version, release⟩ := by
  have hmem : ∀ c ∈ epoch, Text.isDigit c = true := List.all_eq_true.mp hall
  have hcolon : ':' ∉ epoch := fun h => by cases hmem ':' h
  have hepoch : hasEpoch (epoch ++ ':' :: (version ++ '+' :: release)) = true := by
    rw [hasEpoch, Text.takeWhile_append_cons rfl, List.takeWhile_eq_self_iff.mpr hmem,
      Text.dropWhile_append_cons rfl, List.dropWhile_eq_nil_iff.mpr hmem]
    simp [hne]
  rw [parts, String.toList_ofList, normalize, if_pos hepoch, split?,
    Text.cut?_append_cons hcolon, Option.map_some]
  dsimp only
  rw [Text.cut?_append_cons hplus]
  rfl

theorem parts_canonical (s : String) :
    parts (canonical s) = ⟨Text.unpadRun (parts s).epoch, Text.unpad (parts s).version,
      Text.unpad (releaseOrZero (parts s).release)⟩ := by
  obtain ⟨hne, hall⟩ := digits_epochText s.toList
  have hplus : '+' ∉ Text.unpad (versionText s.toList) := by
    intro h
    have hmem := List.mem_takeWhile_imp (Text.mem_of_mem_unpad h)
    simp at hmem
  rw [canonical, parts_of_notation (Text.unpadRun_ne_nil _) (Text.all_isDigit_unpadRun hne hall)
    hplus, epoch_parts, version_parts, release_parts]

theorem releaseOrZero_ne_nil (release : List Char) : releaseOrZero release ≠ [] := by
  cases release <;> simp [releaseOrZero]

theorem releaseOrZero_of_ne_nil {release : List Char} (h : release ≠ []) :
    releaseOrZero release = release :=
  if_neg (mt List.isEmpty_iff.mp h)

theorem respelt_canonical (s : String) : Respelt Text.unpad s (canonical s) := by
  obtain ⟨hne, hall⟩ := digits_epoch_parts s
  have hword : Text.word? (Text.unpadRun (parts s).epoch) = Text.word? (parts s).epoch := by
    rw [Text.word?_digits (Text.unpadRun_ne_nil _) (Text.all_isDigit_unpadRun hne hall),
      Text.word?_digits hne hall, Text.decimalValue_unpadRun]
  have hversion : (Text.unpad (parts s).version).isEmpty = (parts s).version.isEmpty := by
    rw [Bool.eq_iff_iff, List.isEmpty_iff, List.isEmpty_iff, Text.unpad_eq_nil_iff]
  have hrelease := releaseOrZero_of_ne_nil
    (mt Text.unpad_eq_nil_iff.mp (releaseOrZero_ne_nil (parts s).release))
  unfold Respelt reading?
  rw [parts_canonical]
  dsimp only
  rw [hword, hversion, hrelease]
  cases Text.word? (parts s).epoch with
  | none => rfl
  | some n => cases (parts s).version.isEmpty <;> rfl

/-- Only the parts of a text count, an empty release being zero. -/
structure SameParts (s s' : String) : Prop where
  epoch_eq : (parts s).epoch = (parts s').epoch
  version_eq : (parts s).version = (parts s').version
  release_eq : releaseOrZero (parts s).release = releaseOrZero (parts s').release

theorem ordering_congr {a a' c c' : String} (ha : SameParts a a') (hc : SameParts c c') :
    ordering a c = ordering a' c' := by
  rw [ordering, ordering, compare_eq, compare_eq, ha.epoch_eq, ha.version_eq, ha.release_eq,
    hc.epoch_eq, hc.version_eq, hc.release_eq]
  cases epochNumber (parts a').epoch with
  | error cause => rfl
  | ok m =>
    cases epochNumber (parts c').epoch with
    | error cause => rfl
    | ok n => cases compareVersions (parts a').version (parts c').version <;> rfl

theorem SameParts.refl (s : String) : SameParts s s := ⟨rfl, rfl, rfl⟩

theorem sameParts_epoch {s : String} (h : hasEpoch s.toList = false) :
    SameParts ("0:" ++ s) s := by
  have htext : ("0:" ++ s).toList = '0' :: ':' :: s.toList := by simp
  have hparts : parts ("0:" ++ s) = parts s := by
    rw [parts, parts, htext, normalize, if_pos (hasEpoch_zero s.toList), normalize, h]
    rfl
  exact ⟨by rw [hparts], by rw [hparts], by rw [hparts]⟩

theorem restText_subset (s : List Char) : restText s ⊆ s := by
  unfold restText
  split
  · exact ((List.tail_suffix _).trans (List.dropWhile_suffix _)).subset
  · exact List.Subset.refl s

/-- Without a plus sign the release is missing; one that is written as nothing or as zero is the
same. -/
theorem sameParts_release {s release : String} (hplus : '+' ∉ s.toList)
    (h : releaseOrZero release.toList = ['0']) : SameParts (s ++ "+" ++ release) s := by
  have htext : (s ++ "+" ++ release).toList = s.toList ++ '+' :: release.toList := by simp
  have hrest : ∀ c ∈ restText s.toList, decide (c ≠ '+') = true := by
    intro c hc
    simpa using ne_of_mem_of_not_mem (restText_subset s.toList hc) hplus
  refine ⟨?_, ?_, ?_⟩
  · rw [epoch_parts, epoch_parts, htext, epochText_append_cons rfl (by decide)]
  · rw [version_parts, version_parts, versionText, versionText, htext,
      restText_append_cons rfl (by decide), Text.takeWhile_append_cons rfl]
  · rw [release_parts, release_parts, releaseText, releaseText, htext,
      restText_append_cons rfl (by decide), Text.dropWhile_append_cons rfl,
      List.dropWhile_eq_nil_iff.mpr hrest]
    exact h

/-- A comparison does not see how its texts are spelt: it gives the same with the canonical spelling
of the one, of the other and of both.  An epoch that is put before a text without one is zero, and
so is a release that is missing or empty. -/
theorem ordering_canonical (a b : String) :
    (∀ o,
      (ordering (canonical a) b = .ok o ↔ ordering a b = .ok o) ∧
      (ordering a (canonical b) = .ok o ↔ ordering a b = .ok o) ∧
      (ordering (canonical a) (canonical b) = .ok o ↔ ordering a b = .ok o)) ∧
    normalize (normalize a.toList) = normalize a.toList ∧
    (hasEpoch a.toList = false →
      ordering ("0:" ++ a) b = ordering a b ∧ ordering b ("0:" ++ a) = ordering b a) ∧
    ('+' ∉ a.toList → ∀ release ∈ ["", "0"],
      ordering (a ++ "+" ++ release) b = ordering a b ∧
      ordering b (a ++ "+" ++ release) = ordering b a) := by
  refine ⟨fun o => ⟨?_, ?_, ?_⟩, normalize_normalize a.toList, ?_, ?_⟩
  · exact ordering_eq_ok_iff_of_respelt isSpelling_unpad isSpelling_id (respelt_canonical a)
      (respelt_self b) o
  · exact ordering_eq_ok_iff_of_respelt isSpelling_id isSpelling_unpad (respelt_self a)
      (respelt_canonical b) o
  · exact ordering_eq_ok_iff_of_respelt isSpelling_unpad isSpelling_unpad (respelt_canonical a)
      (respelt_canonical b) o
  · intro h
    have hsame := sameParts_epoch h
    exact ⟨ordering_congr hsame (.refl b), ordering_congr (.refl b) hsame⟩
  · intro hplus release hrelease
    have hzero : releaseOrZero release.toList = ['0'] := by
      simp only [List.mem_cons, List.not_mem_nil, or_false] at hrelease
      rcases hrelease with rfl | rfl <;> rfl
    have hsame := sameParts_release hplus hzero
    exact ⟨ordering_congr hsame (.refl b), ordering_congr (.refl b) hsame⟩

/-- Both texts are padded, and neither has a release. -/
theorem ordering_canonical_padded :
    let a := "1.010-05"
    let b := "000:01.9"
    hasEpoch a.toList = false ∧ '+' ∉ a.toList ∧ ordering a b = .ok .gt ∧
      ordering "0:1.10-5+0" "0:1.9+0" = .ok .gt ∧ ordering ("0:" ++ a) b = .ok .gt ∧
      ordering b (a ++ "+" ++ "0") = ordering b a := by
  intro a b
  have hepoch : hasEpoch a.toList = false := by decide
  have hplus : '+' ∉ a.toList := by decide
  have hgreater : ordering a b = .ok .gt := by decide
  have ha : canonical a = "0:1.10-5+0" := by decide +kernel
  have hb : canonical b = "0:1.9+0" := by decide +kernel
  obtain ⟨hspelt, -, hzero, hrelease⟩ := ordering_canonical a b
  have hcanonical := (hspelt .gt).2.2.mpr hgreater
  rw [ha, hb] at hcanonical
  exact ⟨hepoch, hplus, hgreater, hcanonical, (hzero hepoch).1.trans hgreater,
    (hrelease hplus "0" (by decide)).2⟩

example : canonical "007:01.0rc010-000" = "7:1.0rc10-0+0" := by cbv

end Evr
end Oval
