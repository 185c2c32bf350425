import Mathlib.Data.List.ProdSigma
import Oval.Assessment
import Oval.Proofs.Failure

/-! # The values of assessing a test

What an assessment comes to, whatever it reports.  Resolving fails for the first reference that
cannot be used, and judging for the first pair of an item and a state that cannot be matched.
-/
namespace Oval

theorem findSome?_product {α β γ : Type} (f : α × β → Option γ) (as : List α) (bs : List β) :
    (as ×ˢ bs).findSome? f = as.findSome? fun a => bs.findSome? fun b => f (a, b) := by
  induction as with
  | nil => rfl
  | cons a r ih =>
    rw [List.product_cons, List.findSome?_append, List.findSome?_map, ih, List.findSome?_cons]
    change (bs.findSome? fun b => f (a, b)).or _ = _
    cases bs.findSome? fun b => f (a, b) <;> rfl

namespace Assess

variable {α β : Type}

theorem value_run_bind (x : Assess α) (f : α → Assess β) :
    (x >>= f).run.value = x.run.value >>= fun a => (f a).run.value := by
  rw [ExceptT.run_bind, Traced.value_bind]
  cases x.run.value <;> rfl

theorem value_run_mapM (f : α → Assess β) (l : List α) :
    (l.mapM f).run.value = l.mapM fun a => (f a).run.value := by
  induction l with
  | nil => rfl
  | cons a r ih =>
    rw [List.mapM_cons, List.mapM_cons, value_run_bind]
    congr 1
    funext b
    rw [value_run_bind, ih]
    rfl

end Assess

def Tagged.matching (state : TaggedState) (item : Item) : Except AssessmentError Bool :=
  (state.admits item).run.value

/-- The item is found to satisfy every state. -/
def SatisfiesAll (states : List TaggedState) (item : Item) : Prop :=
  ∀ state ∈ states, state.matching item = .ok true

instance (states : List TaggedState) : DecidablePred (SatisfiesAll states) := fun item =>
  inferInstanceAs (Decidable (∀ state ∈ states, state.matching item = .ok true))

namespace Registry

theorem value_admitsAll (states : List TaggedState) (item : Item) :
    (admitsAll states item).run.value =
      (states.findSome? fun state => failure? (state.matching item)).elim
        (.ok (decide (SatisfiesAll states item))) .error := by
  have hvalue : (admitsAll states item).run.value =
      (states.mapM fun state => state.matching item) >>= fun results => .ok (results.all id) := by
    rw [admitsAll, Assess.value_run_bind, Assess.value_run_mapM]
    rfl
  rw [hvalue, mapM_eq_elim (g := fun state => decide (state.matching item = .ok true))
    fun state b => eq_decide_of_eq_ok]
  cases states.findSome? fun state => failure? (state.matching item) with
  | some cause => rfl
  | none =>
    have hall : (states.map fun state => decide (state.matching item = .ok true)).all id =
        decide (SatisfiesAll states item) := by
      rw [Bool.eq_iff_iff, decide_eq_true_iff, SatisfiesAll]
      simp
    exact congrArg Except.ok hall

/-- The item count alone decides if it is refused, or if there is nothing to match; else every pair
must be matched, and the number of items that satisfy all states decides. -/
theorem value_judge (test : Test) (states : List TaggedState) (items : List Item) :
    (judge test states items).run.value =
      let exist := test.existence.admits items.length
      if exist = false ∨ states = [] ∨ items = [] then .ok exist
      else ((items ×ˢ states).findSome? fun (item, state) => failure? (state.matching item)).elim
        (.ok (test.check.combine (items.map fun item => decide (SatisfiesAll states item))))
        .error := by
  unfold judge
  dsimp only
  by_cases hdecided : test.existence.admits items.length = false ∨ states = [] ∨ items = []
  · rw [if_pos (by simpa [or_assoc] using hdecided), if_pos hdecided]
    rfl
  · rw [if_neg (by simpa [or_assoc] using hdecided), if_neg hdecided, Assess.value_run_bind,
      Assess.value_run_mapM, findSome?_product]
    have hpass := mapM_eq_elim (f := fun item => (admitsAll states item).run.value)
      (g := fun item => decide (SatisfiesAll states item)) (l := items) ?_
    · rw [hpass]
      simp only [value_admitsAll, failure?_elim]
      generalize items.findSome? _ = cause?
      cases cause? <;> rfl
    · intro item b h
      rw [value_admitsAll] at h
      generalize states.findSome? _ = cause? at h
      cases cause? with
      | none => exact (Except.ok.inj h).symm
      | some cause => cases h

/-- The references of the test find an object and states of its kind. -/
structure Resolves (r : Registry) (t : TaggedTest) (object : TaggedObject)
    (states : List TaggedState) : Prop where
  object_found : r.object? t.test.objectRef = some object
  object_kind : object.kind = t.kind
  states_found : List.Forall₂ (fun id state => r.state? id = some state ∧ state.kind = t.kind)
    t.test.stateRefs states

section Refusal

variable {P T : Type} [Identified P] [Identified T]

/-- Why the test cannot use what is found under an identifier: it is nothing, or it is of another
kind. -/
def refusalOf (t : TaggedTest) (role : Entity) (id : String) :
    Option (Tagged P T) → Option AssessmentError
  | none => some (.danglingReference role id)
  | some e =>
    if e.kind = t.kind then none
    else some (.kindMismatch t.test.id role e.ident t.kind e.kind)

theorem failure?_ofSameKind (t : TaggedTest) (role : Entity) (id : String)
    (found : Option (Tagged P T)) :
    failure? (ofSameKind t role id found) = refusalOf t role id found := by
  cases found with
  | none => rfl
  | some e =>
    simp only [ofSameKind, refusalOf]
    split <;> rfl

theorem ofSameKind_eq_ok_iff {t : TaggedTest} {role : Entity} {id : String}
    {found : Option (Tagged P T)} {e : Tagged P T} :
    ofSameKind t role id found = .ok e ↔ found = some e ∧ e.kind = t.kind := by
  cases found with
  | none => simp [ofSameKind]
  | some e' =>
    simp only [ofSameKind, Option.some.injEq]
    constructor
    · intro h
      split at h
      · rename_i hkind
        cases h
        exact ⟨rfl, hkind⟩
      · cases h
    · rintro ⟨rfl, hkind⟩
      exact if_pos hkind

end Refusal

/-- Why the test cannot be resolved: the first reference that it cannot use, its object before its
states, and these in the order in which it lists them. -/
def refusal? (r : Registry) (t : TaggedTest) : Option AssessmentError :=
  (refusalOf t .object t.test.objectRef (r.object? t.test.objectRef)).or
    (t.test.stateRefs.findSome? fun id => refusalOf t .state id (r.state? id))

variable {r : Registry} {t : TaggedTest}

theorem failure?_resolve : failure? (r.resolve t) = r.refusal? t := by
  have hstates : failure? (r.statesOf t) =
      t.test.stateRefs.findSome? fun id => refusalOf t .state id (r.state? id) := by
    rw [statesOf, failure?_mapM]
    simp only [failure?_ofSameKind]
  rw [refusal?, ← hstates, ← failure?_ofSameKind, ← objectOf, resolve]
  cases r.objectOf t with
  | error cause => rfl
  | ok object => cases r.statesOf t <;> rfl

theorem resolve_eq_ok_iff {object : TaggedObject} {states : List TaggedState} :
    r.resolve t = .ok (object, states) ↔ r.Resolves t object states := by
  have hstates : r.statesOf t = .ok states ↔
      List.Forall₂ (fun id state => r.state? id = some state ∧ state.kind = t.kind)
        t.test.stateRefs states := by
    simp only [statesOf, mapM_eq_ok_iff, ofSameKind_eq_ok_iff]
  have hobject : r.objectOf t = .ok object ↔
      r.object? t.test.objectRef = some object ∧ object.kind = t.kind := ofSameKind_eq_ok_iff
  constructor
  · intro h
    obtain ⟨object', ho, h⟩ := bind_eq_ok_iff.mp h
    obtain ⟨states', hs, h⟩ := bind_eq_ok_iff.mp h
    cases h
    obtain ⟨hfound, hkind⟩ := hobject.mp ho
    exact ⟨hfound, hkind, hstates.mp hs⟩
  · rintro ⟨hfound, hkind, hall⟩
    rw [resolve, hobject.mpr ⟨hfound, hkind⟩, hstates.mpr hall]
    rfl

theorem value_assess (inv : Inventory) :
    (r.assess inv t).value = (do
      let (object, states) ← r.resolve t
      let items ← (object.collect inv).run.value
      (judge t.test states items).run.value) := by
  change (r.outcomeOf inv t).run.value = _
  rw [outcomeOf, Assess.value_run_bind]
  congr 1
  funext ⟨object, states⟩
  rw [Assess.value_run_bind]
  rfl

end Registry
end Oval
