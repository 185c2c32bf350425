import Oval.Proofs.Evr.Reading
import Oval.Proofs.Failure

/-! # Version texts that cannot be compared

Two things stand in the way of a comparison: an epoch that does not fit in 64 bits and a version
that is empty.  Epochs are looked at first, the actual one before the expected one, and versions
even if the epochs differ.  A missing epoch never is an error, because each text gets one.
-/
namespace Oval.Evr

/-- Why the texts cannot be compared, if they cannot. -/
def refusal? (actual expected : String) : Option EvrError :=
  let epoch := epochText actual.toList
  let epoch' := epochText expected.toList
  if 2 ^ 64 ≤ Text.decimalValue epoch then some (.invalidEpoch (String.ofList epoch))
  else if 2 ^ 64 ≤ Text.decimalValue epoch' then some (.invalidEpoch (String.ofList epoch'))
  else if versionText actual.toList = [] ∨ versionText expected.toList = [] then some .emptyVersion
  else none

theorem epochNumber_epochText (s : List Char) :
    epochNumber (epochText s) =
      if 2 ^ 64 ≤ Text.decimalValue (epochText s) then
        .error (.invalidEpoch (String.ofList (epochText s)))
      else .ok (Text.decimalValue (epochText s)) := by
  obtain ⟨hne, hall⟩ := digits_epochText s
  have hbound : Text.wordBound = 2 ^ 64 := rfl
  rw [epochNumber, Text.word?_digits hne hall, hbound]
  by_cases h : 2 ^ 64 ≤ Text.decimalValue (epochText s)
  · rw [if_neg (Nat.not_lt.mpr h), if_pos h]
  · rw [if_pos (Nat.lt_of_not_le h), if_neg h]

theorem compareVersions_eq (actual expected : List Char) :
    compareVersions actual expected =
      if actual = [] ∨ expected = [] then .error .emptyVersion
      else .ok (compareTexts actual expected) := by
  simp only [compareVersions, Bool.or_eq_true, List.isEmpty_iff]

theorem failure?_ordering (actual expected : String) :
    failure? (ordering actual expected) = refusal? actual expected := by
  rw [ordering, compare_eq, epoch_parts, epoch_parts, version_parts, version_parts,
    epochNumber_epochText, epochNumber_epochText, compareVersions_eq]
  unfold refusal?
  dsimp only
  by_cases hepoch : 2 ^ 64 ≤ Text.decimalValue (epochText actual.toList)
  · rw [if_pos hepoch, if_pos hepoch]
    rfl
  by_cases hepoch' : 2 ^ 64 ≤ Text.decimalValue (epochText expected.toList)
  · rw [if_neg hepoch, if_neg hepoch, if_pos hepoch', if_pos hepoch']
    rfl
  rw [if_neg hepoch, if_neg hepoch, if_neg hepoch', if_neg hepoch']
  by_cases hversion : versionText actual.toList = [] ∨ versionText expected.toList = []
  · rw [if_pos hversion, if_pos hversion]
    rfl
  · rw [if_neg hversion, if_neg hversion]
    rfl

theorem refusal?_ne_missingEpoch (actual expected input : String) :
    refusal? actual expected ≠ some (.missingEpoch input) := by
  unfold refusal?
  dsimp only
  split
  · simp
  split
  · simp
  split <;> simp

/-- The errors of a comparison and when they occur.  An operation that is known fails exactly as the
comparison does; one that is not known fails whatever the texts. -/
theorem refusals_exact (actual expected : String) :
    (∀ cause, ordering actual expected = .error cause ↔ refusal? actual expected = some cause) ∧
      ((∃ o, ordering actual expected = .ok o) ↔ refusal? actual expected = none) ∧
      (∀ input, ordering actual expected ≠ .error (.missingEpoch input)) ∧
      (∀ text, satisfies (.unknown text) actual expected = .error (.unknownOperation text)) ∧
      ∀ relation cause, satisfies (.known relation) actual expected = .error cause ↔
        ordering actual expected = .error cause := by
  have herror (cause : EvrError) :
      ordering actual expected = .error cause ↔ refusal? actual expected = some cause := by
    rw [← failure?_ordering, failure?_eq_some_iff]
  refine ⟨herror, ?_, ?_, fun text => rfl, ?_⟩
  · rw [← failure?_ordering, failure?_eq_none_iff]
  · intro input h
    exact refusal?_ne_missingEpoch actual expected input ((herror _).mp h)
  · intro relation cause
    rw [satisfies]
    cases ordering actual expected <;> simp [Except.map]

/-- A sign is no digit, so what begins with one has no epoch, and here it has no version. -/
example : refusal? "+5:1" "1" = some .emptyVersion ∧ refusal? ":" "a:1" = none := by decide

end Oval.Evr
