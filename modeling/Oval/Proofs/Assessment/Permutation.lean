import Mathlib.Data.List.Perm.Basic
import Oval.Proofs.Assessment.Judgment

/-! # The order of packages and of states does not matter

Every item is matched with every state, so neither the order of the items nor that of the states
decides whether a pair fails, and the items that satisfy all states are only counted.  Which of
several errors is met first does depend on the order.
-/
namespace Oval

/-- Both computations fail, or both succeed with values that are related. -/
inductive Agree {ε α : Type} (R : α → α → Prop) : Except ε α → Except ε α → Prop
  | error (cause cause' : ε) : Agree R (.error cause) (.error cause')
  | ok {a b : α} (h : R a b) : Agree R (.ok a) (.ok b)

/-- The same result, but for the cause of an error. -/
def SameVerdict {ε : Type} (x y : Except ε Bool) : Prop :=
  (∀ b, x = .ok b ↔ y = .ok b) ∧ ((∃ cause, x = .error cause) ↔ ∃ cause, y = .error cause)

namespace Agree

variable {ε α β : Type} {R : α → α → Prop} {S : β → β → Prop}

theorem refl (hR : ∀ a, R a a) (x : Except ε α) : Agree R x x := by
  cases x with
  | error cause => exact .error cause cause
  | ok a => exact .ok (hR a)

theorem bind {x y : Except ε α} {f g : α → Except ε β} (hxy : Agree R x y)
    (hfg : ∀ a b, R a b → Agree S (f a) (g b)) : Agree S (x >>= f) (y >>= g) := by
  cases hxy with
  | error cause cause' => exact .error cause cause'
  | ok h => exact hfg _ _ h

theorem elim {x? y? : Option ε} {a b : α}
    (hfail : (∃ cause, x? = some cause) ↔ ∃ cause, y? = some cause) (h : R a b) :
    Agree R (x?.elim (.ok a) .error) (y?.elim (.ok b) .error) := by
  cases x? with
  | none =>
    cases y? with
    | none => exact .ok h
    | some cause' => simp at hfail
  | some cause =>
    cases y? with
    | none => simp at hfail
    | some cause' => exact .error cause cause'

theorem sameVerdict {x y : Except ε Bool} (h : Agree (· = ·) x y) : SameVerdict x y := by
  cases h with
  | error cause cause' => simp [SameVerdict]
  | ok h => simp [SameVerdict, h]

end Agree

theorem eq_nil_iff_of_perm {α : Type} {l l' : List α} (h : l.Perm l') : l = [] ↔ l' = [] := by
  rw [← List.isEmpty_iff, h.isEmpty_eq, List.isEmpty_iff]

theorem countP_satisfiesAll_of_perm {states states' : List TaggedState} {items items' : List Item}
    (hstates : states.Perm states') (hitems : items.Perm items') :
    items.countP (SatisfiesAll states ·) = items'.countP (SatisfiesAll states' ·) := by
  rw [← hitems.countP_eq]
  apply List.countP_congr
  intro item _
  rw [decide_eq_true_iff, decide_eq_true_iff]
  simp only [SatisfiesAll, hstates.mem_iff]

theorem PackageFormat.kind_injective : Function.Injective kind := by
  intro format format' h
  cases format <;> cases format' <;> simp [kind] at h ⊢

theorem Tagged.exists_eq_package_of_kind {P T : Type} {e : Tagged P T} {format : PackageFormat}
    (h : e.kind = format.kind) : ∃ p, e = .package format p := by
  cases e with
  | package format' p =>
    obtain rfl : format' = format := PackageFormat.kind_injective h
    exact ⟨p, rfl⟩
  | text x => cases format <;> cases h

namespace Registry

theorem agree_judge (test : Test) {states states' : List TaggedState} {items items' : List Item}
    (hstates : states.Perm states') (hitems : items.Perm items') :
    Agree (· = ·) (judge test states items).run.value (judge test states' items').run.value := by
  have hempty := eq_nil_iff_of_perm hstates
  have hempty' := eq_nil_iff_of_perm hitems
  by_cases hdecided : test.existence.admits items.length = false ∨ states = [] ∨ items = []
  · have hdecided' := hdecided
    rw [hempty, hempty', hitems.length_eq] at hdecided'
    rw [value_judge, value_judge]
    dsimp only
    rw [if_pos hdecided, if_pos hdecided', hitems.length_eq]
    exact .ok rfl
  · simp only [not_or, Bool.not_eq_false] at hdecided
    obtain ⟨hexist, hne, hne'⟩ := hdecided
    rw [value_judge_of_matched hexist hne hne',
      value_judge_of_matched (hitems.length_eq ▸ hexist) (mt hempty.mpr hne) (mt hempty'.mpr hne')]
    apply Agree.elim
    · simp only [exists_mismatch?_iff, hstates.mem_iff, hitems.mem_iff]
    · rw [countP_satisfiesAll_of_perm hstates hitems, hitems.length_eq]

variable {r : Registry} {format : PackageFormat} {test : Test}

theorem agree_assess_of_packages {inv inv' : StaticInventory}
    (h : ∀ o, r.object? test.objectRef = some (.package format o) →
      (inv.packages format o.name).Perm (inv'.packages format o.name)) :
    Agree (· = ·) (r.assess inv.toInventory (.package format test)).value
      (r.assess inv'.toInventory (.package format test)).value := by
  rw [value_assess, value_assess]
  cases hresolve : r.resolve (.package format test) with
  | error cause => exact .error cause cause
  | ok resolved =>
    obtain ⟨object, states⟩ := resolved
    have hresolves := resolve_eq_ok_iff.mp hresolve
    obtain ⟨o, rfl⟩ := Tagged.exists_eq_package_of_kind hresolves.object_kind
    have hcollect : Agree List.Perm (Tagged.collect inv.toInventory (.package format o)).run.value
        (Tagged.collect inv'.toInventory (.package format o)).run.value :=
      .ok ((h o hresolves.object_found).map _)
    exact hcollect.bind fun items items' hperm => agree_judge test (.refl states) hperm

variable {stateRefs : List String}

theorem Resolves.of_perm (hperm : test.stateRefs.Perm stateRefs) {object : TaggedObject}
    {states : List TaggedState} (h : r.Resolves (.package format test) object states) :
    ∃ states', states.Perm states' ∧
      r.Resolves (.package format { test with stateRefs }) object states' := by
  obtain ⟨states', hfound, hstates⟩ := List.perm_comp_forall₂ hperm.symm h.states_found
  exact ⟨states', hstates.symm, h.object_found, h.object_kind, hfound⟩

theorem agree_resolve (hperm : test.stateRefs.Perm stateRefs) :
    Agree (fun found found' => found.1 = found'.1 ∧ found.2.Perm found'.2)
      (r.resolve (.package format test)) (r.resolve (.package format { test with stateRefs })) := by
  cases hresolve : r.resolve (.package format test) with
  | error cause =>
    cases hresolve' : r.resolve (.package format { test with stateRefs }) with
    | error cause' => exact .error cause cause'
    | ok found' =>
      obtain ⟨states, -, hresolves⟩ := (resolve_eq_ok_iff.mp hresolve').of_perm hperm.symm
      cases hresolve.symm.trans (resolve_eq_ok_iff.mpr hresolves)
  | ok found =>
    obtain ⟨states, hstates, hresolves⟩ := (resolve_eq_ok_iff.mp hresolve).of_perm hperm
    rw [resolve_eq_ok_iff.mpr hresolves]
    exact .ok ⟨rfl, hstates⟩

theorem agree_assess_of_stateRefs (inv : Inventory) (hperm : test.stateRefs.Perm stateRefs) :
    Agree (· = ·) (r.assess inv (.package format test)).value
      (r.assess inv (.package format { test with stateRefs })).value := by
  rw [value_assess, value_assess]
  apply (agree_resolve hperm).bind
  rintro ⟨object, states⟩ ⟨object', states'⟩ ⟨rfl, hstates⟩
  apply (Agree.refl (fun _ => rfl) (object.collect inv).run.value).bind
  rintro items items' rfl
  exact agree_judge test hstates (.refl items)

/-- A test about packages has the same verdict, or is an error again, if the inventory lists the
packages that its object names in another order, and if the test lists its states in another order.
What else the inventories hold does not matter. -/
theorem assess_of_perm (r : Registry) (format : PackageFormat) (test : Test) :
    (∀ inv inv' : StaticInventory,
      (∀ o, r.object? test.objectRef = some (.package format o) →
        (inv.packages format o.name).Perm (inv'.packages format o.name)) →
      SameVerdict (r.assess inv.toInventory (.package format test)).value
        (r.assess inv'.toInventory (.package format test)).value) ∧
    ∀ (inv : Inventory) (stateRefs : List String), test.stateRefs.Perm stateRefs →
      SameVerdict (r.assess inv (.package format test)).value
        (r.assess inv (.package format { test with stateRefs })).value :=
  ⟨fun _ _ h => (agree_assess_of_packages h).sameVerdict,
    fun inv _ hperm => (agree_assess_of_stateRefs inv hperm).sameVerdict⟩

/-- Another pair of package and state is met first, and other entries come and go. -/
theorem assess_of_perm_shuffled :
    let test : Test := { id := "t", objectRef := "o", stateRefs := ["old", "odd"] }
    let swapped : Test := { test with stateRefs := ["odd", "old"] }
    let r := ofDocument {
      objects := { rpminfo := [⟨"o", "bash"⟩] }
      states := { rpminfo := [{ id := "old", evr := some ⟨.known .lessThan, "2"⟩ },
        { id := "odd", evr := some ⟨.unknown "about", "2"⟩, arch := some "arm" }] } }
    let bash : Package := ⟨"bash", "1", none⟩
    let bash' : Package := ⟨"bash", "3", some "arm"⟩
    let inv : StaticInventory := { rpm := [bash, ⟨"zsh", "5", none⟩, bash'] }
    let inv' : StaticInventory :=
      { rpm := [bash', bash], dpkg := [⟨"bash", "2", none⟩], files := [("/etc/shells", "bash")] }
    (∀ o, r.object? test.objectRef = some (.package .rpm o) →
        (inv.packages .rpm o.name).Perm (inv'.packages .rpm o.name)) ∧
      SameVerdict (r.assess inv.toInventory (.package .rpm test)).value
        (r.assess inv'.toInventory (.package .rpm test)).value ∧
      test.stateRefs.Perm swapped.stateRefs ∧
      SameVerdict (r.assess inv.toInventory (.package .rpm test)).value
        (r.assess inv.toInventory (.package .rpm swapped)).value := by
  intro test swapped r bash bash' inv inv'
  have hobject : r.object? test.objectRef = some (.package .rpm ⟨"o", "bash"⟩) := by
    dsimp only [r, test]
    decide +kernel
  have hpackages (o : PackageObject) (ho : r.object? test.objectRef = some (.package .rpm o)) :
      (inv.packages .rpm o.name).Perm (inv'.packages .rpm o.name) := by
    rw [hobject] at ho
    cases ho
    exact .swap bash' bash []
  have hstates : test.stateRefs.Perm swapped.stateRefs := .swap "odd" "old" []
  obtain ⟨hinv, hrefs⟩ := assess_of_perm r .rpm test
  exact ⟨hpackages, hinv inv inv' hpackages, hstates, hrefs inv.toInventory _ hstates⟩

end Registry
end Oval
