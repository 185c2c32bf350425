import Oval.Proofs.Assessment.Value

/-! # The exact verdict of a test

A reference that cannot be used decides before anything is asked.  If the items are to be matched at
all, every pair of an item and a state is: a pair that cannot be matched is an error even where the
verdict seems settled, and without such a pair the number of items that satisfy all states decides.
-/
namespace Oval

/-- What the mode asks of the number of items that satisfy the states, out of all items. -/
def Check.Requires : Check → (satisfied total : Nat) → Prop
  | all, satisfied, total => satisfied = total
  | atLeastOne, satisfied, _ => 1 ≤ satisfied
  | onlyOne, satisfied, _ => satisfied = 1
  | noneSatisfy, satisfied, _ => satisfied = 0

instance (mode : Check) (satisfied total : Nat) : Decidable (mode.Requires satisfied total) :=
  match mode with
  | .all => inferInstanceAs (Decidable (satisfied = total))
  | .atLeastOne => inferInstanceAs (Decidable (1 ≤ satisfied))
  | .onlyOne => inferInstanceAs (Decidable (satisfied = 1))
  | .noneSatisfy => inferInstanceAs (Decidable (satisfied = 0))

/-- What the mode asks of the number of items that are collected. -/
def Existence.Requires : Existence → (count : Nat) → Prop
  | atLeastOneExists, count => 1 ≤ count
  | anyExist, _ => True
  | noneExist, count => count = 0
  | onlyOneExists, count => count = 1

instance (mode : Existence) (count : Nat) : Decidable (mode.Requires count) :=
  match mode with
  | .atLeastOneExists => inferInstanceAs (Decidable (1 ≤ count))
  | .anyExist => inferInstanceAs (Decidable True)
  | .noneExist => inferInstanceAs (Decidable (count = 0))
  | .onlyOneExists => inferInstanceAs (Decidable (count = 1))

theorem Existence.admits_eq (mode : Existence) (count : Nat) :
    mode.admits count = decide (mode.Requires count) := by
  cases mode <;> rfl

theorem Check.combine_eq (mode : Check) (results : List Bool) :
    mode.combine results = decide (mode.Requires (results.count true) results.length) := by
  cases mode <;> rfl

theorem Check.combine_map {α : Type} (mode : Check) (p : α → Bool) (l : List α) :
    mode.combine (l.map p) = decide (mode.Requires (l.countP p) l.length) := by
  rw [combine_eq, List.length_map, List.count, List.countP_map]
  congr 3
  funext a
  exact beq_true (p a)

namespace Registry

variable {r : Registry} {inv : Inventory} {t : TaggedTest} {object : TaggedObject}
  {states : List TaggedState} {items : List Item}

theorem value_assess_of_refusal? {cause : AssessmentError} (h : r.refusal? t = some cause) :
    (r.assess inv t).value = .error cause := by
  rw [← failure?_resolve, failure?_eq_some_iff] at h
  rw [value_assess, h]
  rfl

theorem value_assess_of_collect (h : r.Resolves t object states)
    (hitems : (object.collect inv).run.value = .ok items) :
    (r.assess inv t).value = (judge t.test states items).run.value := by
  rw [value_assess, resolve_eq_ok_iff.mpr h]
  change ((object.collect inv).run.value >>= _) = _
  rw [hitems]
  rfl

theorem exists_refusal?_of_not_resolves (h : ¬∃ object states, r.Resolves t object states) :
    ∃ cause, r.refusal? t = some cause := by
  cases hrefusal : r.refusal? t with
  | some cause => exact ⟨cause, rfl⟩
  | none =>
    rw [← failure?_resolve, failure?_eq_none_iff] at hrefusal
    obtain ⟨⟨object, states⟩, hresolve⟩ := hrefusal
    exact absurd ⟨object, states, resolve_eq_ok_iff.mp hresolve⟩ h

/-- The first cause for which an item and a state cannot be matched, each item being matched with
all states before the next item. -/
def mismatch? (items : List Item) (states : List TaggedState) : Option AssessmentError :=
  (items ×ˢ states).findSome? fun (item, state) => failure? (state.matching item)

theorem exists_mismatch?_iff :
    (∃ cause, mismatch? items states = some cause) ↔
      ∃ item ∈ items, ∃ state ∈ states, ∃ cause, state.matching item = .error cause := by
  unfold mismatch?
  rw [exists_failure_iff (f := fun p : Item × TaggedState => p.2.matching p.1)]
  simp only [Prod.exists, List.mem_product, and_assoc, exists_and_left]

theorem value_judge_of_matched {test : Test} (hexist : test.existence.admits items.length = true)
    (hstates : states ≠ []) (hitems : items ≠ []) :
    (judge test states items).run.value = (mismatch? items states).elim
      (.ok (decide (test.check.Requires (items.countP (SatisfiesAll states ·)) items.length)))
      .error := by
  rw [value_judge]
  dsimp only
  rw [if_neg (by simp [hexist, hstates, hitems]), Check.combine_map]
  rfl

/-- What assessing a test comes to.  If its references cannot be used, the first of them that cannot
be is the error.  If they can be and the items are collected, the number of items decides alone
where it is refused or there is nothing to match.  Otherwise the first pair that cannot be matched
is the error, and without one the verdict says how many items satisfy all states. -/
theorem assess_exact (r : Registry) (inv : Inventory) (t : TaggedTest) :
    ((¬∃ object states, r.Resolves t object states) →
      ∃ cause, r.refusal? t = some cause ∧ (r.assess inv t).value = .error cause) ∧
    ∀ object states items, r.Resolves t object states →
      (object.collect inv).run.value = .ok items →
        let exist := decide (t.test.existence.Requires items.length)
        let result := (r.assess inv t).value
        (exist = false ∨ states = [] ∨ items = [] → result = .ok exist) ∧
        (exist = true → states ≠ [] → items ≠ [] →
          ((∃ cause, result = .error cause) ↔
            ∃ item ∈ items, ∃ state ∈ states, ∃ cause, state.matching item = .error cause) ∧
          (∀ cause, result = .error cause ↔ mismatch? items states = some cause) ∧
          (mismatch? items states = none → result = .ok (decide
            (t.test.check.Requires (items.countP (SatisfiesAll states ·)) items.length)))) := by
  constructor
  · intro hresolves
    obtain ⟨cause, hcause⟩ := exists_refusal?_of_not_resolves hresolves
    exact ⟨cause, hcause, value_assess_of_refusal? hcause⟩
  intro object states items hresolves hcollect exist result
  have hadmits : t.test.existence.admits items.length = exist := Existence.admits_eq _ _
  have hresult : result = (judge t.test states items).run.value :=
    value_assess_of_collect hresolves hcollect
  constructor
  · intro hdecided
    rw [hresult, value_judge, hadmits]
    exact if_pos hdecided
  intro hexist hstates hitems
  rw [value_judge_of_matched (hadmits.trans hexist) hstates hitems] at hresult
  have herror (cause : AssessmentError) :
      result = .error cause ↔ mismatch? items states = some cause := by
    rw [hresult, ← failure?_eq_some_iff, failure?_elim]
  refine ⟨?_, herror, ?_⟩
  · simp only [herror, exists_mismatch?_iff]
  · intro hnone
    rw [hresult, hnone]
    rfl

/-- The unknown operation is met only in matching the second package, after a state that the package
does not satisfy, and not at all where no package should be there; the state of another kind is met
before the one that is missing. -/
theorem assess_exact_unmasked :
    let masking : Test :=
      { id := "t", check := .atLeastOne, objectRef := "o", stateRefs := ["old", "odd"] }
    let counting : Test := { id := "t", check := .onlyOne, objectRef := "o", stateRefs := ["old"] }
    let refusing : Test :=
      { id := "t", existence := .noneExist, objectRef := "o", stateRefs := ["odd"] }
    let broken : Test := { id := "t", objectRef := "o", stateRefs := ["old", "deb", "gone"] }
    let old : PackageState := { id := "old", evr := some ⟨.known .lessThan, "2"⟩ }
    let odd : PackageState :=
      { id := "odd", evr := some ⟨.unknown "about", "2"⟩, arch := some "arm" }
    let o : PackageObject := ⟨"o", "bash"⟩
    let r := Registry.ofDocument {
      objects := { rpminfo := [o] }
      states := { rpminfo := [old, odd], dpkginfo := [{ id := "deb" }] } }
    let bash : List Package := [⟨"bash", "1", none⟩, ⟨"bash", "3", some "arm"⟩]
    let inv : Inventory := ⟨fun _ _ => .ok bash, fun _ => .error "no access"⟩
    let items := bash.map Item.package
    (¬∃ object states, r.Resolves (.package .rpm broken) object states) ∧
      (∃ cause, r.refusal? (.package .rpm broken) = some cause ∧
        (r.assess inv (.package .rpm broken)).value = .error cause) ∧
      r.Resolves (.package .rpm masking) (.package .rpm o) [.package .rpm old, .package .rpm odd] ∧
      (Tagged.collect inv (.package .rpm o)).run.value = .ok items ∧
      (r.assess inv (.package .rpm masking)).value = .error (.evr (.unknownOperation "about")) ∧
      r.Resolves (.package .rpm counting) (.package .rpm o) [.package .rpm old] ∧
      (r.assess inv (.package .rpm counting)).value = .ok true ∧
      r.Resolves (.package .rpm refusing) (.package .rpm o) [.package .rpm odd] ∧
      (r.assess inv (.package .rpm refusing)).value = .ok false := by
  intro masking counting refusing broken old odd o r bash inv items
  have hbroken : ¬∃ object states, r.Resolves (.package .rpm broken) object states := by
    rintro ⟨object, states, h⟩
    have hresolve := resolve_eq_ok_iff.mpr h
    have hrefused : r.resolve (.package .rpm broken) =
        .error (.kindMismatch "t" .state "deb" .rpminfo .dpkginfo) := by
      dsimp only [r, broken, old, odd, o]
      decide +kernel
    cases hrefused.symm.trans hresolve
  have hmasking : r.Resolves (.package .rpm masking) (.package .rpm o)
      [.package .rpm old, .package .rpm odd] := by
    apply resolve_eq_ok_iff.mp
    dsimp only [r, masking, old, odd, o]
    decide +kernel
  have hcounting : r.Resolves (.package .rpm counting) (.package .rpm o) [.package .rpm old] := by
    apply resolve_eq_ok_iff.mp
    dsimp only [r, counting, old, odd, o]
    decide +kernel
  have hrefusing : r.Resolves (.package .rpm refusing) (.package .rpm o) [.package .rpm odd] := by
    apply resolve_eq_ok_iff.mp
    dsimp only [r, refusing, old, odd, o]
    decide +kernel
  have hcollect : (Tagged.collect inv (.package .rpm o)).run.value = .ok items := rfl
  obtain ⟨-, herror, -⟩ :=
    ((assess_exact r inv (.package .rpm masking)).2 _ _ _ hmasking hcollect).2 rfl nofun nofun
  obtain ⟨-, -, hverdict⟩ :=
    ((assess_exact r inv (.package .rpm counting)).2 _ _ _ hcounting hcollect).2 rfl nofun nofun
  have hrefused := ((assess_exact r inv (.package .rpm refusing)).2 _ _ _ hrefusing hcollect).1
  refine ⟨hbroken, (assess_exact r inv (.package .rpm broken)).1 hbroken, hmasking, hcollect,
    (herror _).mpr ?_, hcounting, hverdict ?_, hrefusing, hrefused (.inl rfl)⟩
  · dsimp only [items, bash, old, odd]
    decide +kernel
  · dsimp only [items, bash, old]
    decide +kernel

end Registry
end Oval
