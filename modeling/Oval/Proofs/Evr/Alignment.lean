import Oval.Proofs.Evr.Shape

/-! # Only what is aligned decides

Two texts are compared in the places that both have.  What the expected text has beyond that, in
dash pieces or in the segments of one, can be left out of it, and so can the dash pieces that only
the actual text has.  The segments that only the actual text has in an aligned dash piece decide by
being there.
-/
namespace Oval

namespace Text

theorem not_mem_of_mem_pieces {sep : Char} {s p : List Char} (h : p ∈ pieces sep s) : sep ∉ p := by
  induction s generalizing p with
  | nil =>
    rw [List.mem_singleton.mp h]
    exact List.not_mem_nil
  | cons c r ih =>
    by_cases hc : c = sep
    · rw [pieces, if_pos hc] at h
      rcases List.mem_cons.mp h with rfl | h
      · exact List.not_mem_nil
      · exact ih h
    · obtain ⟨q, qs, hq⟩ := List.exists_cons_of_ne_nil (pieces_ne_nil sep r)
      rw [pieces, if_neg hc, hq] at h
      rcases List.mem_cons.mp h with rfl | h
      · rw [List.mem_cons, not_or]
        exact ⟨Ne.symm hc, ih (hq ▸ List.mem_cons_self)⟩
      · exact ih (hq ▸ List.mem_cons_of_mem _ h)

theorem mem_intercalate_iff {sep x : Char} (hne : x ≠ sep) (ps : List (List Char)) :
    x ∈ [sep].intercalate ps ↔ ∃ p ∈ ps, x ∈ p := by
  induction ps with
  | nil => simp
  | cons p qs ih =>
    cases qs with
    | nil => simp
    | cons q qs =>
      rw [List.intercalate_cons_cons]
      simp [hne, ih]

theorem mem_of_mem_pieces {sep x : Char} (hne : x ≠ sep) {s p : List Char}
    (hp : p ∈ pieces sep s) (hx : x ∈ p) : x ∈ s := by
  have hjoin : [sep].intercalate (pieces sep s) = s := by
    rw [pieces_eq_splitOn, List.intercalate_splitOn]
  rw [← hjoin]
  exact (mem_intercalate_iff hne _).mpr ⟨p, hp, hx⟩

theorem pieces_intercalate {sep : Char} {ps : List (List Char)} (hne : ps ≠ [])
    (h : ∀ p ∈ ps, sep ∉ p) : pieces sep ([sep].intercalate ps) = ps := by
  rw [pieces_eq_splitOn, List.splitOn_intercalate sep h hne]

end Text

namespace Evr

/-- The text with the given dash pieces, each made of its segments. -/
def ofSegments (rows : List (List (List Char))) : List Char :=
  ['-'].intercalate (rows.map ['.'].intercalate)

/-- What the segments of a text are like: there are some in each dash piece, and no separator is in
any of them. -/
structure IsSegmented (rows : List (List (List Char))) : Prop where
  ne_nil : rows ≠ []
  row_ne_nil : ∀ row ∈ rows, row ≠ []
  dash_not_mem : ∀ row ∈ rows, ∀ segment ∈ row, '-' ∉ segment
  dot_not_mem : ∀ row ∈ rows, ∀ segment ∈ row, '.' ∉ segment

theorem isSegmented_segments (s : List Char) : IsSegmented (segments s) where
  ne_nil := by
    rw [segments, ne_eq, List.map_eq_nil_iff]
    exact Text.pieces_ne_nil '-' s
  row_ne_nil row hrow := by
    obtain ⟨p, -, rfl⟩ := List.mem_map.mp hrow
    exact Text.pieces_ne_nil '.' p
  dash_not_mem row hrow segment hsegment hdash := by
    obtain ⟨p, hp, rfl⟩ := List.mem_map.mp hrow
    exact Text.not_mem_of_mem_pieces hp (Text.mem_of_mem_pieces (by decide) hsegment hdash)
  dot_not_mem row hrow segment hsegment := by
    obtain ⟨p, -, rfl⟩ := List.mem_map.mp hrow
    exact Text.not_mem_of_mem_pieces hsegment

theorem IsSegmented.segments_ofSegments {rows : List (List (List Char))} (h : IsSegmented rows) :
    segments (ofSegments rows) = rows := by
  have hdash : ∀ p ∈ rows.map ['.'].intercalate, '-' ∉ p := by
    intro p hp hmem
    obtain ⟨row, hrow, rfl⟩ := List.mem_map.mp hp
    obtain ⟨segment, hsegment, hmem⟩ := (Text.mem_intercalate_iff (by decide) row).mp hmem
    exact h.dash_not_mem row hrow segment hsegment hmem
  rw [segments, ofSegments, Text.pieces_intercalate (mt List.map_eq_nil_iff.mp h.ne_nil) hdash,
    List.map_map]
  calc rows.map (Text.pieces '.' ∘ ['.'].intercalate)
      = rows.map id := List.map_congr_left fun row hrow =>
        Text.pieces_intercalate (h.row_ne_nil row hrow) (h.dot_not_mem row hrow)
    _ = rows := List.map_id rows

/-- Segments that are left of those of a text are like those of one, if some are left in each dash
piece. -/
theorem IsSegmented.of_sublist {rows rows' : List (List (List Char))} (h : IsSegmented rows)
    (hne : rows' ≠ []) (hrows : ∀ row' ∈ rows', row' ≠ [] ∧ ∃ row ∈ rows, row' ⊆ row) :
    IsSegmented rows' where
  ne_nil := hne
  row_ne_nil row' hrow' := (hrows row' hrow').1
  dash_not_mem row' hrow' segment hsegment := by
    obtain ⟨-, row, hrow, hsubset⟩ := hrows row' hrow'
    exact h.dash_not_mem row hrow segment (hsubset hsegment)
  dot_not_mem row' hrow' segment hsegment := by
    obtain ⟨-, row, hrow, hsubset⟩ := hrows row' hrow'
    exact h.dot_not_mem row hrow segment (hsubset hsegment)

/-- Compares the segments of two texts, dash piece by dash piece. -/
def compareRows : List (List (List Char)) → List (List (List Char)) → Ordering
  | as :: rows, cs :: rows' => (compareDots as cs).then (compareRows rows rows')
  | _, _ => .eq

theorem compareDashes_eq_compareRows (ps qs : List (List Char)) :
    compareDashes ps qs =
      compareRows (ps.map (Text.pieces '.')) (qs.map (Text.pieces '.')) := by
  induction ps generalizing qs with
  | nil => rfl
  | cons p ps ih =>
    cases qs with
    | nil => rfl
    | cons q qs => rw [compareDashes, List.map_cons, List.map_cons, compareRows, ih]

theorem compareTexts_eq_compareRows (a c : List Char) :
    compareTexts a c = compareRows (segments a) (segments c) :=
  compareDashes_eq_compareRows _ _

theorem compareDots_take (as cs : List (List Char)) :
    compareDots as (cs.take as.length) = compareDots as cs := by
  induction as generalizing cs with
  | nil => rfl
  | cons a as ih =>
    cases cs with
    | nil => rfl
    | cons c cs => rw [List.length_cons, List.take_succ_cons, compareDots, compareDots, ih]

/-- Dash pieces of the expected side without a partner decide nothing, nor do the segments without a
partner in one that has one. -/
theorem compareRows_zipWith_take (rows rows' : List (List (List Char))) :
    compareRows rows (List.zipWith (fun as cs => cs.take as.length) rows rows') =
      compareRows rows rows' := by
  induction rows generalizing rows' with
  | nil => rfl
  | cons as rows ih =>
    cases rows' with
    | nil => rfl
    | cons cs rows' => rw [List.zipWith_cons_cons, compareRows, compareRows, compareDots_take, ih]

theorem compareRows_take (rows rows' : List (List (List Char))) :
    compareRows (rows.take rows'.length) rows' = compareRows rows rows' := by
  induction rows generalizing rows' with
  | nil => rw [List.take_nil]
  | cons as rows ih =>
    cases rows' with
    | nil => rfl
    | cons cs rows' => rw [List.length_cons, List.take_succ_cons, compareRows, compareRows, ih]

theorem compareDots_of_forall_eq {as cs : List (List Char)}
    (h : ∀ (k : Nat) x y, as[k]? = some x → cs[k]? = some y → compareSegments x y = .eq) :
    compareDots as cs = if cs.length < as.length then .gt else .eq := by
  induction as generalizing cs with
  | nil => rfl
  | cons a as ih =>
    cases cs with
    | nil => rfl
    | cons c cs =>
      have hrest := ih fun k => h (k + 1)
      rw [compareDots, h 0 a c rfl rfl, Ordering.eq_then, hrest]
      simp only [List.length_cons, Nat.add_lt_add_iff_right]

/-- The segment at a place: the number of its dash piece, and its own in it. -/
def segmentAt? (rows : List (List (List Char))) (j k : Nat) : Option (List Char) :=
  rows[j]?.bind (·[k]?)

/-- If all pairs are equal as far as a dash piece in which the actual side has more segments, that
side is greater. -/
theorem compareRows_of_forall_eq {rows rows' : List (List (List Char))} {i : Nat}
    {as cs : List (List Char)} (has : rows[i]? = some as) (hcs : rows'[i]? = some cs)
    (hlen : cs.length < as.length)
    (h : ∀ j k x y, j ≤ i → segmentAt? rows j k = some x → segmentAt? rows' j k = some y →
      compareSegments x y = .eq) :
    compareRows rows rows' = .gt := by
  induction rows generalizing rows' i with
  | nil => cases has
  | cons first rows ih =>
    cases rows' with
    | nil => cases hcs
    | cons first' rows' =>
      have hfirst : compareDots first first' = if first'.length < first.length then .gt else .eq :=
        compareDots_of_forall_eq fun k x y => h 0 k x y (Nat.zero_le i)
      rw [compareRows, hfirst]
      split
      · rfl
      · rename_i hmore
        rw [Ordering.eq_then]
        cases i with
        | zero =>
          cases has
          cases hcs
          exact absurd hlen hmore
        | succ i => exact ih has hcs fun j k x y hj => h (j + 1) k x y (Nat.succ_le_succ hj)

/-- The expected text without what it has beyond the actual one, in dash pieces and in segments. -/
def expectedPart (a c : List Char) : List Char :=
  ofSegments (List.zipWith (fun as cs => cs.take as.length) (segments a) (segments c))

/-- The actual text without the dash pieces that it has beyond the expected one. -/
def actualPart (a c : List Char) : List Char :=
  ofSegments ((segments a).take (segments c).length)

theorem segments_expectedPart (a c : List Char) :
    segments (expectedPart a c) =
      List.zipWith (fun as cs => cs.take as.length) (segments a) (segments c) := by
  have ha := isSegmented_segments a
  have hc := isSegmented_segments c
  apply IsSegmented.segments_ofSegments
  apply hc.of_sublist
  · rw [ne_eq, List.zipWith_eq_nil_iff, not_or]
    exact ⟨ha.ne_nil, hc.ne_nil⟩
  · intro row hrow
    rw [← List.map_uncurry_zip_eq_zipWith] at hrow
    obtain ⟨⟨as, cs⟩, hmem, rfl⟩ := List.mem_map.mp hrow
    obtain ⟨has, hcs⟩ := List.of_mem_zip hmem
    refine ⟨?_, cs, hcs, List.take_subset _ _⟩
    rw [Function.uncurry_apply_pair, ne_eq, List.take_eq_nil_iff, not_or, List.length_eq_zero_iff]
    exact ⟨ha.row_ne_nil as has, hc.row_ne_nil cs hcs⟩

theorem segments_actualPart (a c : List Char) :
    segments (actualPart a c) = (segments a).take (segments c).length := by
  have ha := isSegmented_segments a
  have hc := isSegmented_segments c
  apply IsSegmented.segments_ofSegments
  apply ha.of_sublist
  · rw [ne_eq, List.take_eq_nil_iff, not_or, List.length_eq_zero_iff]
    exact ⟨hc.ne_nil, ha.ne_nil⟩
  · intro row hrow
    have hmem := List.mem_of_mem_take hrow
    exact ⟨ha.row_ne_nil row hmem, row, hmem, List.Subset.refl row⟩

/-- A comparison is the same with the aligned part of the expected text in its place, and with that
of the actual text.  If all pairs of segments are equal as far as an aligned dash piece in which the
actual text has more segments, the actual text is greater. -/
theorem aligned_part_decides (a c : List Char) :
    compareTexts a (expectedPart a c) = compareTexts a c ∧
    compareTexts (actualPart a c) c = compareTexts a c ∧
    ∀ i as cs, (segments a)[i]? = some as → (segments c)[i]? = some cs → cs.length < as.length →
      (∀ j k x y, j ≤ i → segmentAt? (segments a) j k = some x →
        segmentAt? (segments c) j k = some y → compareSegments x y = .eq) →
      compareTexts a c = .gt := by
  refine ⟨?_, ?_, ?_⟩
  · rw [compareTexts_eq_compareRows, segments_expectedPart, compareRows_zipWith_take,
      compareTexts_eq_compareRows]
  · rw [compareTexts_eq_compareRows, segments_actualPart, compareRows_take,
      compareTexts_eq_compareRows]
  · intro i as cs has hcs hlen h
    rw [compareTexts_eq_compareRows]
    exact compareRows_of_forall_eq has hcs hlen h

theorem aligned_part_decides_overhanging :
    let a := "1.2.3-4-5".toList
    let c := "1.2-9.1".toList
    compareTexts a "1.2-9".toList = compareTexts a c ∧
      compareTexts "1.2.3-4".toList c = compareTexts a c ∧ compareTexts a c = .gt := by
  intro a c
  obtain ⟨hexpected, hactual, hmore⟩ := aligned_part_decides a c
  have hexpectedPart : expectedPart a c = "1.2-9".toList := by decide
  have hactualPart : actualPart a c = "1.2.3-4".toList := by decide
  rw [hexpectedPart] at hexpected
  rw [hactualPart] at hactual
  refine ⟨hexpected, hactual, hmore 0 [['1'], ['2'], ['3']] [['1'], ['2']] rfl rfl (by decide) ?_⟩
  intro j k x y hj hx hy
  obtain rfl := Nat.le_zero.mp hj
  match k with
  | 0 =>
    cases hx
    cases hy
    decide
  | 1 =>
    cases hx
    cases hy
    decide
  | k + 2 => cases hy

end Evr
end Oval
