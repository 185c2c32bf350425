import Oval.Proofs.Evaluation.Session

/-! # What a context hands out

Diagnostics reach a context one at a time or as the list of a nested definition.  What is recorded
of a list depends on the lists that came before it, and on nothing else: the context remembers the
definitions in them, and diagnostics recorded one at a time leave no trace there.  At the end the
record is handed out up to the limit, with a summary of what is left over.
-/
namespace Oval

/-- What reaches a context: a diagnostic to be recorded, or a list to be merged. -/
inductive Contribution
  | record (d : Diagnostic)
  | merge (ds : List Diagnostic)
  deriving DecidableEq, Repr

namespace Contribution

def covers : Contribution → List String
  | record _ => []
  | merge ds => ds.map Diagnostic.definitionId

def covered (earlier : List Contribution) : List String := earlier.flatMap covers

/-- What a contribution adds to the record after earlier ones: a diagnostic always, and of a list
the members whose definition is in no list merged before. -/
def adds (earlier : List Contribution) : Contribution → List Diagnostic
  | record d => [d]
  | merge ds => ds.filter fun d => d.definitionId ∉ covered earlier

/-- What contributions add to the record, one after the other. -/
def addAll : (earlier : List Contribution) → List Contribution → List Diagnostic
  | _, [] => []
  | earlier, x :: later => x.adds earlier ++ addAll (earlier ++ [x]) later

theorem mem_covered_append {earlier later : List Contribution} {id : String} :
    id ∈ covered (earlier ++ later) ↔ id ∈ covered earlier ∨ id ∈ covered later := by
  rw [covered, List.flatMap_append, List.mem_append]
  rfl

theorem addAll_append (earlier xs ys : List Contribution) :
    addAll earlier (xs ++ ys) = addAll earlier xs ++ addAll (earlier ++ xs) ys := by
  induction xs generalizing earlier with
  | nil => simp [addAll]
  | cons x r ih => simp [addAll, ih]

theorem addAll_congr {earlier earlier' : List Contribution}
    (h : ∀ id, id ∈ covered earlier ↔ id ∈ covered earlier') (xs : List Contribution) :
    addAll earlier xs = addAll earlier' xs := by
  induction xs generalizing earlier earlier' with
  | nil => rfl
  | cons x r ih =>
    have hadds : x.adds earlier = x.adds earlier' := by
      cases x with
      | record d => rfl
      | merge ds => simp only [adds, h]
    have hrest : addAll (earlier ++ [x]) r = addAll (earlier' ++ [x]) r := by
      apply ih
      intro id
      rw [mem_covered_append, mem_covered_append, h]
    rw [addAll, addAll, hadds, hrest]

theorem mem_covered_of_merge_mem {earlier : List Contribution} {ds : List Diagnostic}
    (h : .merge ds ∈ earlier) {d : Diagnostic} (hd : d ∈ ds) :
    d.definitionId ∈ covered earlier :=
  List.mem_flatMap.mpr ⟨_, h, List.mem_map_of_mem hd⟩

/-- A list that was merged before adds nothing, and what comes after it adds what it would add
without it. -/
theorem addAll_merge_again {xs : List Contribution} {ds : List Diagnostic}
    (h : .merge ds ∈ xs) (later : List Contribution) :
    addAll [] (xs ++ .merge ds :: later) = addAll [] (xs ++ later) := by
  have hnothing : adds xs (.merge ds) = [] := by
    rw [adds, List.filter_eq_nil_iff]
    intro d hd
    simpa using mem_covered_of_merge_mem h hd
  have hcovered (id : String) : id ∈ covered (xs ++ [.merge ds]) ↔ id ∈ covered xs := by
    rw [mem_covered_append, or_iff_left_iff_imp]
    intro hid
    obtain ⟨x, hx, hin⟩ := List.mem_flatMap.mp hid
    rw [List.mem_singleton.mp hx] at hin
    exact List.mem_flatMap.mpr ⟨_, h, hin⟩
  rw [addAll_append, addAll_append, List.nil_append, addAll, hnothing, List.nil_append,
    addAll_congr hcovered]

end Contribution

open Contribution (covered covers adds addAll)

namespace Context

def accept (c : Context) : Contribution → Context
  | .record d => c.record d
  | .merge ds => c.merge ds

def acceptAll (c : Context) (xs : List Contribution) : Context := xs.foldl accept c

/-- The context remembers the definitions in the lists merged so far. -/
def Remembers (c : Context) (earlier : List Contribution) : Prop :=
  ∀ id, id ∈ c.merged ↔ id ∈ covered earlier

variable {c : Context} {earlier : List Contribution}

theorem Remembers.fresh_eq (h : c.Remembers earlier) (ds : List Diagnostic) :
    c.fresh ds = adds earlier (.merge ds) := by
  apply List.filter_congr
  intro d _
  rw [List.contains_eq_mem, ← decide_not]
  exact decide_eq_decide.mpr (not_congr (h d.definitionId))

theorem Remembers.recorded_accept (h : c.Remembers earlier) (x : Contribution) :
    (c.accept x).recorded = c.recorded ++ x.adds earlier := by
  cases x with
  | record d => rfl
  | merge ds => rw [accept, recorded_merge, h.fresh_eq]

theorem Remembers.accept (h : c.Remembers earlier) (x : Contribution) :
    (c.accept x).Remembers (earlier ++ [x]) := by
  have hmerged : (c.accept x).merged = c.merged ++ x.covers := by
    cases x with
    | record d => exact (List.append_nil _).symm
    | merge ds => rfl
  intro id
  rw [hmerged, List.mem_append, h, Contribution.mem_covered_append]
  simp [covered]

/-- The record grows by what the contributions add, given those that came before. -/
theorem Remembers.recorded_acceptAll (h : c.Remembers earlier) (xs : List Contribution) :
    (c.acceptAll xs).recorded = c.recorded ++ addAll earlier xs := by
  induction xs generalizing c earlier with
  | nil => exact (List.append_nil _).symm
  | cons x r ih =>
    have hrest := ih (h.accept x)
    rw [acceptAll, List.foldl_cons, ← acceptAll, hrest, h.recorded_accept, addAll,
      List.append_assoc]

theorem remembers_empty : empty.Remembers [] := fun _ => Iff.rfl

theorem recorded_acceptAll_empty (xs : List Contribution) :
    (empty.acceptAll xs).recorded = addAll [] xs :=
  remembers_empty.recorded_acceptAll xs

theorem definitionId_summary_take {limit : Nat} {ds : List Diagnostic} (h : limit < ds.length)
    (dropped : Nat) :
    (limit = 0 → (summary limit dropped (ds.take limit)).definitionId = "") ∧
      (0 < limit → ds[limit - 1]?.map Diagnostic.definitionId =
        some (summary limit dropped (ds.take limit)).definitionId) := by
  constructor
  · rintro rfl
    rfl
  · intro hpos
    have hlast : ds[limit - 1]? = some ds[limit - 1] := List.getElem?_eq_getElem (by omega)
    rw [summary, List.getLast?_take, if_neg (by omega), hlast]
    rfl

/-- Whatever is recorded and merged, in whatever order, a context hands out what the contributions
add, if there is no more than the limit.  Else it hands out as much as the limit and then a warning
about the number left over, under the definition of the last diagnostic handed out.  So it hands out
one diagnostic more than the limit at most, and leaving out a merge of a list that was merged before
changes nothing. -/
theorem finish_acceptAll (limit : Nat) (xs : List Contribution) :
    let all := addAll [] xs
    let found := (empty.acceptAll xs).finish limit
    (all.length ≤ limit → found = all) ∧
      (limit < all.length → ∃ owner,
        found = all.take limit ++ [.warning owner (toString (all.length - limit) ++
          " further diagnostics dropped (limit " ++ toString limit ++ ")")] ∧
        (limit = 0 → owner = "") ∧
        (0 < limit → all[limit - 1]?.map Diagnostic.definitionId = some owner)) ∧
      found.length ≤ limit + 1 ∧
      ∀ ds later, .merge ds ∈ xs →
        (empty.acceptAll (xs ++ .merge ds :: later)).finish limit =
          (empty.acceptAll (xs ++ later)).finish limit := by
  have hfinish (ys : List Contribution) :
      (empty.acceptAll ys).finish limit = cut limit (addAll [] ys) := by
    rw [finish_eq_cut, recorded_acceptAll_empty]
  intro all found
  have hfound : found = cut limit all := hfinish xs
  rw [hfound]
  refine ⟨fun hle => cut_of_le hle, fun hlt => ?_, ?_, ?_⟩
  · exact ⟨_, cut_of_lt hlt, definitionId_summary_take hlt (all.length - limit)⟩
  · rw [length_cut]
    exact Nat.min_le_right _ _
  · intro ds later hmerged
    rw [hfinish, hfinish, Contribution.addAll_merge_again hmerged]

/-- The second list has a member about "base", which the first one covers, and one about "top",
which only a record mentions. -/
theorem finish_acceptAll_overlapping :
    let xs : List Contribution :=
      [.record (.warning "top" "first"),
        .merge [.error "base" "second", .error "base" "third"],
        .merge [.error "base" "second", .error "top" "fourth"]]
    2 < (addAll [] xs).length ∧
      (empty.acceptAll xs).finish 2 =
        [.warning "top" "first", .error "base" "second",
          .warning "base" "2 further diagnostics dropped (limit 2)"] := by
  intro xs
  have hall : addAll [] xs =
      [.warning "top" "first", .error "base" "second", .error "base" "third",
        .error "top" "fourth"] := by decide +kernel
  have hlt : 2 < (addAll [] xs).length := by rw [hall]; decide
  obtain ⟨owner, hfound, -, howner⟩ := (finish_acceptAll 2 xs).2.1 hlt
  have howner' := howner (by decide)
  rw [hall] at hfound howner'
  obtain rfl : "base" = owner := Option.some.inj howner'
  exact ⟨hlt, hfound⟩

end Context

namespace Step

def contribute : Contribution → Step Unit
  | .record d => record d
  | .merge ds => merge ds

theorem contribute_eq {w : Walk} {earlier : List Contribution} (h : w.context.Remembers earlier)
    (x : Contribution) :
    contribute x w = ⟨((), { w with context := w.context.accept x }),
      (x.adds earlier).map fun _ => .count .diagnosticRecorded⟩ := by
  cases x with
  | record d => rfl
  | merge ds =>
    rw [← h.fresh_eq]
    exact merge_eq ds w

/-- Steps leave the context with their contributions, and each diagnostic recorded is counted. -/
theorem forM_contribute (w : Walk) {earlier : List Contribution} (h : w.context.Remembers earlier)
    (xs : List Contribution) :
    (xs.forM contribute) w = ⟨((), { w with context := w.context.acceptAll xs }),
      (addAll earlier xs).map fun _ => .count .diagnosticRecorded⟩ := by
  induction xs generalizing w earlier with
  | nil => rfl
  | cons x r ih =>
    have hfirst := contribute_eq h x
    have hrest := ih { w with context := w.context.accept x } (h.accept x)
    rw [addAll, List.map_append]
    exact bind_eq hfirst hrest

end Step

/-- An evaluation hands out the context in which its definition was visited, under its own limit. -/
theorem Evaluator.diagnostics_evaluateAt (e : Evaluator) (sink : Option Sink) (p : Nat)
    (d : Definition) (os : Outcomes) :
    (e.evaluateAt sink p d os).value.1.diagnostics =
      (e.nestedStatus (e.registry.definitionCount + 1) [] (p, d)
        { outcomes := os }).value.2.context.finish e.settings.maxDiagnostics := rfl

end Oval
