import Oval.Proofs.Assessment.Effects
import Oval.Proofs.Registry.Lookup

/-! # Kinds are kept apart

An entity is found in the collection of its kind, whatever other collections hold under its
identifier.  A test uses an object and states of its own kind only, and the kind of the object
decides what its items are.  So a state only ever meets items that it can be applied to.
-/
namespace Oval

/-- The state can be applied to the item. -/
def Tagged.Suits : TaggedState → Item → Prop
  | .package .., .package _ => True
  | .text _, .text _ => True
  | _, _ => False

def Query.kind : Query → Kind
  | .packages format _ => format.kind
  | .file _ => .textfilecontent54

/-- The computation does not fail for a state that cannot be applied. -/
def NeverMisapplied {α : Type} (x : Except AssessmentError α) : Prop :=
  ∀ id reason, x ≠ .error (.invalidEntity .state id reason)

namespace NeverMisapplied

variable {α β : Type}

theorem ok (a : α) : NeverMisapplied (.ok a : Except AssessmentError α) := nofun

theorem bind {x : Except AssessmentError α} {f : α → Except AssessmentError β}
    (hx : NeverMisapplied x) (hf : ∀ a, x = .ok a → NeverMisapplied (f a)) :
    NeverMisapplied (x >>= f) := by
  cases x with
  | error cause =>
    intro id reason h
    exact hx id reason (congrArg Except.error (Except.error.inj h))
  | ok a => exact hf a rfl

theorem mapError {ε : Type} {f : ε → AssessmentError}
    (hf : ∀ cause id reason, f cause ≠ .invalidEntity .state id reason) (x : Except ε α) :
    NeverMisapplied (x.mapError f) := by
  intro id reason h
  cases x with
  | error cause => exact hf cause id reason (Except.error.inj h)
  | ok a => cases h

end NeverMisapplied

theorem Pattern.neverMisapplied_assess (source : String) : NeverMisapplied (assess source) :=
  .mapError nofun _

theorem TextRequirement.neverMisapplied_admits (required : TextRequirement) (value : String) :
    NeverMisapplied (required.admits value) := by
  unfold admits
  split
  · exact .ok _
  · exact .ok _
  · exact (Pattern.neverMisapplied_assess _).bind fun _ _ => .ok _
  · exact nofun

theorem PackageState.neverMisapplied_admits (state : PackageState) (p : Package) :
    NeverMisapplied (state.admits p).run.value := by
  unfold admits
  split
  · exact .ok _
  · split
    · exact .mapError nofun _
    · exact .ok _

theorem Tagged.Suits.neverMisapplied {state : TaggedState} {item : Item} (h : state.Suits item) :
    NeverMisapplied (state.matching item) := by
  cases state with
  | package format s =>
    cases item with
    | package p => exact s.neverMisapplied_admits p
    | text value => exact h.elim
  | text s =>
    cases item with
    | package p => exact h.elim
    | text value =>
      change NeverMisapplied (s.admits value)
      unfold TextState.admits
      split
      · exact TextRequirement.neverMisapplied_admits _ _
      · exact .ok _

theorem Registry.neverMisapplied_judge (test : Test) {states : List TaggedState}
    {items : List Item} (h : ∀ state ∈ states, ∀ item ∈ items, state.Suits item) :
    NeverMisapplied (judge test states items).run.value := by
  intro id reason hjudge
  rw [value_judge] at hjudge
  dsimp only at hjudge
  split at hjudge
  · cases hjudge
  · rw [← failure?_eq_some_iff, failure?_elim] at hjudge
    obtain ⟨⟨item, state⟩, hmem, hfail⟩ := List.exists_of_findSome?_eq_some hjudge
    obtain ⟨hitem, hstate⟩ := List.mem_product.mp hmem
    exact (h state hstate item hitem).neverMisapplied id reason (failure?_eq_some_iff.mp hfail)

theorem NeverMisapplied.answer {α : Type} (x : Except String α) :
    NeverMisapplied (x.mapError AssessmentError.inventory) := by
  apply mapError
  intro cause id reason h
  cases h

theorem TextObject.neverMisapplied_textsIn (o : TextObject) (content : Option String) :
    NeverMisapplied (o.textsIn content) := by
  cases content with
  | none => exact .ok _
  | some text =>
    apply (Pattern.neverMisapplied_assess o.pattern).bind
    intro pattern _
    unfold choose
    split
    · exact .ok _
    · exact nofun
    · exact .ok _

theorem Tagged.neverMisapplied_collect (inv : Inventory) (object : TaggedObject) :
    NeverMisapplied (object.collect inv).run.value := by
  cases object with
  | package format o =>
    rw [collect, Assess.value_run_bind]
    exact (NeverMisapplied.answer _).bind fun _ _ => .ok _
  | text o =>
    rw [collect, Assess.value_run_bind]
    apply (NeverMisapplied.answer _).bind
    intro content _
    rw [Assess.value_run_bind]
    exact (o.neverMisapplied_textsIn content).bind fun _ _ => .ok _

theorem Tagged.suits_of_collect {inv : Inventory} {object : TaggedObject} {items : List Item}
    (hcollect : (object.collect inv).run.value = .ok items) {state : TaggedState}
    (hkind : state.kind = object.kind) : ∀ item ∈ items, state.Suits item := by
  cases object with
  | package format o =>
    rw [collect, Assess.value_run_bind] at hcollect
    obtain ⟨found, -, hitems⟩ := bind_eq_ok_iff.mp hcollect
    cases hitems
    intro item hmem
    obtain ⟨p, -, rfl⟩ := List.mem_map.mp hmem
    cases state with
    | package => trivial
    | text => cases format <;> cases hkind
  | text o =>
    rw [collect, Assess.value_run_bind] at hcollect
    obtain ⟨content, -, hitems⟩ := bind_eq_ok_iff.mp hcollect
    rw [Assess.value_run_bind] at hitems
    obtain ⟨found, -, hitems⟩ := bind_eq_ok_iff.mp hitems
    cases hitems
    intro item hmem
    obtain ⟨value, -, rfl⟩ := List.mem_map.mp hmem
    cases state with
    | package format => cases format <;> cases hkind
    | text => trivial

theorem Tagged.kind_query (object : TaggedObject) : object.query.kind = object.kind := by
  cases object <;> rfl

namespace Registry

theorem mem_ofKind_of_find? {P T : Type} [Identified P] [Identified T] {c : Collections P T}
    {id : String} {e : Tagged P T} (h : ((indexSlots c).find? id).bind c.at? = some e) :
    e ∈ c.ofKind e.kind := by
  rw [bind_find?_indexSlots, Collections.inOrder_eq_flatMap] at h
  obtain ⟨k, -, hmem⟩ := List.mem_flatMap.mp (List.mem_of_find?_eq_some h)
  rwa [Collections.kind_of_mem_ofKind hmem]

variable {r : Registry} {inv : Inventory} {t : TaggedTest}

theorem refusalOf_ne_misapplied {P T : Type} [Identified P] [Identified T] (role : Entity)
    (id : String) (found : Option (Tagged P T)) (ident reason : String) :
    refusalOf t role id found ≠ some (.invalidEntity .state ident reason) := by
  unfold refusalOf
  split
  · nofun
  · split <;> nofun

theorem neverMisapplied_resolve : NeverMisapplied (r.resolve t) := by
  intro id reason h
  rw [← failure?_eq_some_iff, failure?_resolve, refusal?, Option.or_eq_some_iff] at h
  rcases h with h | ⟨-, h⟩
  · exact refusalOf_ne_misapplied _ _ _ _ _ h
  · obtain ⟨ref, -, href⟩ := List.exists_of_findSome?_eq_some h
    exact refusalOf_ne_misapplied _ _ _ _ _ href

theorem Resolves.exists_state?_eq_some {object : TaggedObject} {states : List TaggedState}
    (h : r.Resolves t object states) {state : TaggedState} (hmem : state ∈ states) :
    ∃ id, r.state? id = some state ∧ state.kind = t.kind := by
  have hfound := h.states_found.flip.imp fun state id hid =>
    (⟨⟨id, hid⟩, trivial⟩ : (∃ id, r.state? id = some state ∧ state.kind = t.kind) ∧ True)
  exact ((List.forall₂_and_left _ _).mp hfound).1 state hmem

/-- States and items that a test brings together fit. -/
theorem Resolves.suits {object : TaggedObject} {states : List TaggedState} {items : List Item}
    (h : r.Resolves t object states) (hcollect : (object.collect inv).run.value = .ok items) :
    ∀ state ∈ states, ∀ item ∈ items, state.Suits item := by
  intro state hstate
  obtain ⟨id, -, hkind⟩ := h.exists_state?_eq_some hstate
  exact Tagged.suits_of_collect hcollect (hkind.trans h.object_kind.symm)

theorem neverMisapplied_assess : NeverMisapplied (r.assess inv t).value := by
  rw [value_assess]
  apply neverMisapplied_resolve.bind
  rintro ⟨object, states⟩ hresolve
  apply (object.neverMisapplied_collect inv).bind
  intro items hcollect
  exact neverMisapplied_judge t.test ((resolve_eq_ok_iff.mp hresolve).suits hcollect)

theorem kind_of_mem_queries_assess {q : Query} (h : q ∈ queries (r.assess inv t).effects) :
    q.kind = t.kind := by
  rw [queries_assess] at h
  cases hresolve : r.resolve t with
  | error cause =>
    rw [hresolve] at h
    cases h
  | ok resolved =>
    rw [hresolve] at h
    rw [List.mem_singleton.mp h, Tagged.kind_query]
    exact (resolve_eq_ok_iff.mp hresolve).object_kind

/-- Assessing a test that is found, whatever else has its identifiers.  The test, its object and its
states stand in the collections of one kind, the states can be applied to the items, so assessing
never fails for one that cannot be, and only questions of that kind are put. -/
theorem kinds_kept_apart (doc : Document) (inv : Inventory) {id : String} {t : TaggedTest}
    (hfind : (ofDocument doc).test? id = some t) :
    let r := ofDocument doc
    t ∈ doc.tests.ofKind t.kind ∧
      (∀ ident reason, (r.assess inv t).value ≠ .error (.invalidEntity .state ident reason)) ∧
      (∀ object states items, r.resolve t = .ok (object, states) →
        (object.collect inv).run.value = .ok items →
        object ∈ doc.objects.ofKind t.kind ∧
          ∀ state ∈ states, state ∈ doc.states.ofKind t.kind ∧
            ∀ item ∈ items, state.Suits item) ∧
      ∀ q ∈ queries (r.assess inv t).effects, q.kind = t.kind := by
  intro r
  refine ⟨mem_ofKind_of_find? hfind, neverMisapplied_assess, ?_,
    fun q => kind_of_mem_queries_assess⟩
  intro object states items hresolve hcollect
  have hresolves := resolve_eq_ok_iff.mp hresolve
  constructor
  · rw [← hresolves.object_kind]
    exact mem_ofKind_of_find? hresolves.object_found
  · intro state hstate
    obtain ⟨ref, hfound, hkind⟩ := hresolves.exists_state?_eq_some hstate
    refine ⟨?_, hresolves.suits hcollect state hstate⟩
    rw [← hkind]
    exact mem_ofKind_of_find? hfound

/-- One identifier in all nine collections. -/
theorem kinds_kept_apart_clashing :
    let test : Test := { id := "x", objectRef := "x", stateRefs := ["x"] }
    let doc : Document :=
      { tests := ⟨[test], [test], [test]⟩
        objects := ⟨[⟨"x", "bash"⟩], [⟨"x", "zsh"⟩], [⟨"x", "/etc/shells", "z?sh", none⟩]⟩
        states := ⟨[{ id := "x", arch := some "arm" }], [{ id := "x" }], [{ id := "x" }]⟩ }
    let r := ofDocument doc
    let t : TaggedTest := .package .rpm test
    let inv : Inventory := ⟨fun _ name => .ok [⟨name, "1", none⟩], fun _ => .error "no access"⟩
    r.test? "x" = some t ∧ queries (r.assess inv t).effects = [.packages .rpm "bash"] ∧
      t ∈ doc.tests.ofKind t.kind ∧
      (∀ ident reason, (r.assess inv t).value ≠ .error (.invalidEntity .state ident reason)) ∧
      (∀ object states items, r.resolve t = .ok (object, states) →
        (object.collect inv).run.value = .ok items →
        object ∈ doc.objects.ofKind t.kind ∧
          ∀ state ∈ states, state ∈ doc.states.ofKind t.kind ∧
            ∀ item ∈ items, state.Suits item) ∧
      ∀ q ∈ queries (r.assess inv t).effects, q.kind = t.kind := by
  intro test doc r t inv
  have hfind : (ofDocument doc).test? "x" = some t := by
    dsimp only [doc, t, test]
    decide +kernel
  have hqueries : queries (r.assess inv t).effects = [.packages .rpm "bash"] := by
    dsimp only [r, doc, t, test, inv]
    decide +kernel
  exact ⟨hfind, hqueries, kinds_kept_apart doc inv hfind⟩

end Registry
end Oval
