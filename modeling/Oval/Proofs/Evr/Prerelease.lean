import Oval.Proofs.Evr.Asymmetry

/-! # Pre-releases come before their release

A tilde and whatever follows it, put after a version text, lands in its last segment: that of the
release, or that of the version if there is no release.  The parts before that segment stay as they
are, and the segment becomes less, however the text after the tilde is cut into segments itself.
-/
namespace Oval

namespace Text

/-- What is put after a text lengthens its last piece, up to the first separator, and adds pieces
after that one. -/
theorem exists_pieces_append {sep c : Char} (hc : c ≠ sep) (a b : List Char) :
    ∃ front last more rest, pieces sep a = front ++ [last] ∧
      pieces sep (a ++ c :: b) = front ++ (last ++ c :: more) :: rest := by
  induction a with
  | nil =>
    obtain ⟨more, rest, hb⟩ := List.exists_cons_of_ne_nil (pieces_ne_nil sep b)
    exact ⟨[], [], more, rest, rfl, by simp [pieces, hc, hb]⟩
  | cons x a ih =>
    obtain ⟨front, last, more, rest, ha, hab⟩ := ih
    by_cases hx : x = sep
    · exact ⟨[] :: front, last, more, rest, by simp [pieces, hx, ha], by simp [pieces, hx, hab]⟩
    · cases front with
      | nil =>
        exact ⟨[], x :: last, more, rest, by simp [pieces, hx, ha], by simp [pieces, hx, hab]⟩
      | cons first front =>
        exact ⟨(x :: first) :: front, last, more, rest, by simp [pieces, hx, ha],
          by simp [pieces, hx, hab]⟩

end Text

namespace Evr

theorem tokens_append_tilde (a b : List Char) :
    tokens (a ++ '~' :: b) = tokens a ++ .tilde :: tokens b := by
  have htake {p : Char → Bool} (hp : p '~' = false) := Text.takeWhile_append_cons hp
  have hdrop {p : Char → Bool} (hp : p '~' = false) := Text.dropWhile_append_cons hp
  fun_induction tokens a with
  | case1 => rw [List.nil_append, tokens_tilde, List.nil_append]
  | case2 r ih => rw [List.cons_append, tokens_tilde, ih, List.cons_append]
  | case3 c r _ hletter _ ih =>
    rw [List.cons_append, tokens_letter hletter, ← List.cons_append, htake rfl, hdrop rfl,
      List.takeWhile_cons_of_pos hletter, List.dropWhile_cons_of_pos hletter, ih, List.cons_append]
  | case4 c r _ _ hdigit _ ih =>
    rw [List.cons_append, tokens_digit hdigit, ← List.cons_append, htake rfl, hdrop rfl,
      List.takeWhile_cons_of_pos hdigit, List.dropWhile_cons_of_pos hdigit, ih, List.cons_append]
  | case5 c r hne hletter hdigit ih =>
    have hsep : isSeparator c = true := by simp [isSeparator, hne, hletter, hdigit]
    rw [List.cons_append, tokens_separator hsep, ih]

/-- A token list that goes on with a tilde is less than where it left off. -/
theorem compareTokens_append_tilde (ts us : List Token) :
    compareTokens (ts ++ .tilde :: us) ts = .lt := by
  induction ts with
  | nil => rfl
  | cons t ts ih =>
    cases t with
    | tilde => exact ih
    | letters run =>
      have hself : List.compareLex Ord.compare run run = .eq := Std.ReflCmp.compare_self
      rw [List.cons_append, compareTokens, hself, ih]
      rfl
    | digits value =>
      rw [List.cons_append, compareTokens, Nat.compare_eq_eq.mpr rfl, ih]
      rfl

theorem compareSegments_append_tilde (a b : List Char) :
    compareSegments (a ++ '~' :: b) a = .lt := by
  rw [compareSegments_eq_compareTokens, tokens_append_tilde, compareTokens_append_tilde]

theorem compareDots_append (front as cs : List (List Char)) :
    compareDots (front ++ as) (front ++ cs) = compareDots as cs := by
  induction front with
  | nil => rfl
  | cons a front ih =>
    have hself : compareSegments a a = .eq := Std.ReflCmp.compare_self
    rw [List.cons_append, List.cons_append, compareDots, hself, Ordering.eq_then, ih]

theorem compareDashes_append (front as cs : List (List Char)) :
    compareDashes (front ++ as) (front ++ cs) = compareDashes as cs := by
  induction front with
  | nil => rfl
  | cons a front ih =>
    rw [List.cons_append, List.cons_append, compareDashes, compareDots_self, Ordering.eq_then, ih]

theorem compareTexts_append_tilde (a b : List Char) : compareTexts (a ++ '~' :: b) a = .lt := by
  have hdash : '~' ≠ '-' := by decide
  have hdot : '~' ≠ '.' := by decide
  obtain ⟨front, piece, more, rest, ha, hab⟩ := Text.exists_pieces_append hdash a b
  obtain ⟨front', segment, more', rest', hpiece, hlonger⟩ :=
    Text.exists_pieces_append hdot piece more
  rw [compareTexts, ha, hab, compareDashes_append, compareDashes, hpiece, hlonger,
    compareDots_append, compareDots, compareSegments_append_tilde]
  rfl

theorem compareTexts_tilde_zero (b : List Char) : compareTexts ('~' :: b) ['0'] = .lt := by
  obtain ⟨more, rest, hb⟩ := List.exists_cons_of_ne_nil (Text.pieces_ne_nil '-' b)
  obtain ⟨more', rest', hmore⟩ := List.exists_cons_of_ne_nil (Text.pieces_ne_nil '.' more)
  have hdashes : Text.pieces '-' ('~' :: b) = ('~' :: more) :: rest := by simp [Text.pieces, hb]
  have hdots : Text.pieces '.' ('~' :: more) = ('~' :: more') :: rest' := by
    simp [Text.pieces, hmore]
  have hzero : tokens ['0'] = [.digits 0] := tokens_of_word? rfl
  have hsegment : compareSegments ('~' :: more') ['0'] = .lt := by
    rw [compareSegments_eq_compareTokens, tokens_tilde, hzero]
    rfl
  have hpieces : Text.pieces '-' ['0'] = [['0']] ∧ Text.pieces '.' ['0'] = [['0']] := ⟨rfl, rfl⟩
  rw [compareTexts, hdashes, hpieces.1, compareDashes, hdots, hpieces.2, compareDots, hsegment]
  rfl

theorem compareTexts_releaseOrZero_tilde (a b : List Char) :
    compareTexts (releaseOrZero (a ++ '~' :: b)) (releaseOrZero a) = .lt := by
  cases a with
  | nil => exact compareTexts_tilde_zero b
  | cons c a => exact compareTexts_append_tilde (c :: a) b

/-- The text after the tilde either leaves the version as it is and goes to the release, or there
is no release and it lengthens the version. -/
theorem parts_append_tilde (s t : String) :
    let x := parts s
    let y := parts (s ++ "~" ++ t)
    y.epoch = x.epoch ∧
      (y.version = x.version ∧ (∃ b, y.release = x.release ++ '~' :: b) ∨
        ∃ b, y.version = x.version ++ '~' :: b) := by
  intro x y
  have htext : (s ++ "~" ++ t).toList = s.toList ++ '~' :: t.toList := by simp
  have hepoch : y.epoch = x.epoch := by
    rw [epoch_parts, epoch_parts, htext, epochText_append_cons rfl (by decide)]
  refine ⟨hepoch, ?_⟩
  rw [version_parts, version_parts, release_parts, release_parts, versionText, versionText,
    releaseText, releaseText, htext, restText_append_cons rfl (by decide)]
  generalize restText s.toList = rest
  by_cases hplus : '+' ∈ rest
  · obtain ⟨version, release, rfl, hnot⟩ := List.eq_append_cons_of_mem hplus
    have hversion : version.dropWhile (· ≠ '+') = [] := by
      rw [List.dropWhile_eq_nil_iff]
      rintro c hc
      simpa using ne_of_mem_of_not_mem hc hnot
    refine .inl ⟨?_, t.toList, ?_⟩
    · rw [List.append_assoc, List.cons_append, Text.takeWhile_append_cons rfl,
        Text.takeWhile_append_cons rfl]
    · rw [List.append_assoc, List.cons_append, Text.dropWhile_append_cons rfl,
        Text.dropWhile_append_cons rfl, hversion]
      rfl
  · have hall : ∀ c ∈ rest, decide (c ≠ '+') = true := by
      intro c hc
      simpa using ne_of_mem_of_not_mem hc hplus
    refine .inr ⟨t.toList.takeWhile (· ≠ '+'), ?_⟩
    rw [List.takeWhile_append_of_pos hall, List.takeWhile_eq_self_iff.mpr hall]
    rfl

/-- A version text that can be compared is preceded by whatever it becomes with a tilde and any text
after it, and it exceeds that. -/
theorem ordering_append_tilde (s t : String) (h : ∃ o, ordering s s = .ok o) :
    ordering (s ++ "~" ++ t) s = .ok .lt ∧ ordering s (s ++ "~" ++ t) = .ok .gt := by
  suffices hlt : ordering (s ++ "~" ++ t) s = .ok .lt from ⟨hlt, ordering_swap_of_lt hlt⟩
  obtain ⟨o, ho⟩ := h
  obtain ⟨x, -, hx, -, -⟩ := ordering_eq_ok_iff.mp ho
  obtain ⟨hword, hne, hversion, hrelease⟩ := word?_of_reading? hx
  obtain ⟨hepoch, hparts⟩ := parts_append_tilde s t
  rw [← hepoch] at hword
  have hne' : (parts (s ++ "~" ++ t)).version ≠ [] := by
    rcases hparts with ⟨heq, -⟩ | ⟨b, heq⟩ <;> simp [heq, hne]
  refine ordering_eq_ok_iff.mpr ⟨_, x, reading?_of_word? hword hne', hx, ?_⟩
  rw [Reading.order, Nat.compare_eq_eq.mpr rfl, Ordering.eq_then, hversion, hrelease]
  dsimp only
  rcases hparts with ⟨heq, b, hb⟩ | ⟨b, hb⟩
  · rw [heq, hb, compareTexts_self, Ordering.eq_then, compareTexts_releaseOrZero_tilde]
  · rw [hb, compareTexts_append_tilde, Ordering.lt_then]

/-- The release is empty, and the text after the tilde has separators of every kind. -/
theorem ordering_append_tilde_separators :
    let s := "2:1.0-1+"
    let t := "rc.1-2:3+4~"
    (∃ o, ordering s s = .ok o) ∧ ordering (s ++ "~" ++ t) s = .ok .lt ∧
      ordering s (s ++ "~" ++ t) = .ok .gt := by
  intro s t
  have hs : ∃ o, ordering s s = .ok o := ⟨.eq, by decide⟩
  exact ⟨hs, ordering_append_tilde s t hs⟩

end Evr
end Oval
