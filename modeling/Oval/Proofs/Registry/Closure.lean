import Oval.Proofs.Registry.Extension

/-! # What a definition depends on

From a root, extend leaves lead from identifier to identifier, and criterion leaves to tests, with
an object and states each.  That is all that an evaluation of the root looks up.  Registries that
agree on it may keep it at other positions and among other entities; they agree on what is cyclic.
-/
namespace Oval

/-- The definitions differ in their descriptions at most. -/
structure Definition.Alike (d d' : Definition) : Prop where
  id_eq : d.id = d'.id
  title_eq : d.title = d'.title
  criteria_eq : d.criteria = d'.criteria

/-- What the leaf refers to is among the definitions or among the tests. -/
def Leaf.Within (ids testRefs : List String) : Leaf → Prop
  | childless => True
  | criterion testRef => testRef ∈ testRefs
  | extend definitionRef => definitionRef ∈ ids

instance (ids testRefs : List String) : DecidablePred (Leaf.Within ids testRefs)
  | .childless => inferInstanceAs (Decidable True)
  | .criterion testRef => inferInstanceAs (Decidable (testRef ∈ testRefs))
  | .extend definitionRef => inferInstanceAs (Decidable (definitionRef ∈ ids))

namespace Registry

/-- An extend leaf of the definition found under `id` names `ref`. -/
def Mentions (r : Registry) (id ref : String) : Prop :=
  ∃ p d, r.definition? id = some (p, d) ∧ d.criteria.node.Names ref

/-- The identifiers that extend leaves lead to from the root, whether a definition is found under
them or not. -/
def Closure (r : Registry) (root : String) : String → Prop := Relation.ReflTransGen r.Mentions root

/-- A criterion leaf of a definition in the closure of the root refers to the test. -/
def Consults (r : Registry) (root testRef : String) : Prop :=
  ∃ id p d, r.Closure root id ∧ r.definition? id = some (p, d) ∧
    .criterion testRef ∈ d.criteria.node.leafList

/-- The registries find the same wherever an evaluation of the root looks: definitions but for their
descriptions, tests, and the objects and the states of those tests, or nothing. -/
structure AgreeFrom (r r' : Registry) (root : String) : Prop where
  definition : ∀ id, r.Closure root id →
    Option.Rel (fun found found' => found.2.Alike found'.2) (r.definition? id) (r'.definition? id)
  test : ∀ testRef, r.Consults root testRef → r.test? testRef = r'.test? testRef
  object : ∀ testRef t, r.Consults root testRef → r.test? testRef = some t →
    r.object? t.test.objectRef = r'.object? t.test.objectRef
  state : ∀ testRef t, r.Consults root testRef → r.test? testRef = some t →
    ∀ stateRef ∈ t.test.stateRefs, r.state? stateRef = r'.state? stateRef

variable {r r' : Registry} {root id : String} {p : Nat} {d : Definition}

theorem WellFormed.eq_of_definition? (hr : r.WellFormed) {ref : String} {c : Definition}
    (hfind : r.definition? id = some (p, d)) (hfound : r.definition? ref = some (p, c)) :
    id = ref := by
  have hsame : d = c := Option.some.inj
    ((hr.getElem?_of_definition? hfind).symm.trans (hr.getElem?_of_definition? hfound))
  rw [← hr.id_of_definition? hfind, hsame, hr.id_of_definition? hfound]

theorem Extends.exists_mentions (hr : r.WellFormed) {q : Nat} (h : r.Extends p q)
    (hfind : r.definition? id = some (p, d)) :
    ∃ ref d', r.Mentions id ref ∧ r.definition? ref = some (q, d') := by
  obtain ⟨d₀, ref, d', hp, hnames, hfound⟩ := h
  obtain rfl : d₀ = d := Option.some.inj (hp.symm.trans (hr.getElem?_of_definition? hfind))
  exact ⟨ref, d', ⟨p, d₀, hfind, hnames⟩, hfound⟩

theorem Mentions.exists_extends (hr : r.WellFormed) {ref : String} {q : Nat} {c : Definition}
    (h : r.Mentions id ref) (hfound : r.definition? ref = some (q, c)) :
    ∃ p d, r.definition? id = some (p, d) ∧ r.Extends p q := by
  obtain ⟨p, d, hfind, hnames⟩ := h
  exact ⟨p, d, hfind, d, ref, c, hr.getElem?_of_definition? hfind, hnames, hfound⟩

theorem exists_transGen_mentions (hr : r.WellFormed) (hfind : r.definition? id = some (p, d))
    {q : Nat} (h : Relation.TransGen r.Extends p q) :
    ∃ ref d', Relation.TransGen r.Mentions id ref ∧ r.definition? ref = some (q, d') := by
  induction h with
  | single hstep =>
    obtain ⟨ref, d', hmentions, hfound⟩ := hstep.exists_mentions hr hfind
    exact ⟨ref, d', .single hmentions, hfound⟩
  | tail _ hstep ih =>
    obtain ⟨mid, c, hmid, hmidfind⟩ := ih
    obtain ⟨ref, d', hmentions, hfound⟩ := hstep.exists_mentions hr hmidfind
    exact ⟨ref, d', hmid.tail hmentions, hfound⟩

theorem exists_transGen_extends (hr : r.WellFormed) {ref : String} {q : Nat} {c : Definition}
    (h : Relation.TransGen r.Mentions id ref) (hfound : r.definition? ref = some (q, c)) :
    ∃ p d, r.definition? id = some (p, d) ∧ Relation.TransGen r.Extends p q := by
  induction h generalizing q c with
  | single hmentions =>
    obtain ⟨p, d, hfind, hstep⟩ := hmentions.exists_extends hr hfound
    exact ⟨p, d, hfind, .single hstep⟩
  | tail _ hmentions ih =>
    obtain ⟨x, b, hmid, hstep⟩ := hmentions.exists_extends hr hfound
    obtain ⟨p, d, hfind, hpath⟩ := ih hmid
    exact ⟨p, d, hfind, hpath.tail hstep⟩

/-- An identifier is cyclic if it leads back to itself; positions do not matter. -/
theorem isCyclic_iff_transGen_mentions (hr : r.WellFormed) (id : String) :
    r.isCyclic id = true ↔ Relation.TransGen r.Mentions id id := by
  rw [hr.isCyclic_iff]
  constructor
  · rintro ⟨p, d, hfind, hcycle⟩
    obtain ⟨ref, d', hmentions, hfound⟩ := exists_transGen_mentions hr hfind hcycle
    obtain rfl := hr.eq_of_definition? hfind hfound
    exact hmentions
  · intro h
    obtain ⟨_, ⟨q, c, hfound, -⟩, -⟩ := Relation.TransGen.head'_iff.mp h
    obtain ⟨p, d, hfind, hcycle⟩ := exists_transGen_extends hr h hfound
    cases hfound.symm.trans hfind
    exact ⟨q, c, hfound, hcycle⟩

namespace AgreeFrom

theorem lookup (h : r.AgreeFrom r' root) (hid : r.Closure root id) :
    (∃ p d p' d', r.definition? id = some (p, d) ∧ r'.definition? id = some (p', d') ∧
      d.Alike d') ∨ (r.definition? id = none ∧ r'.definition? id = none) := by
  have hrel := h.definition id hid
  generalize r.definition? id = found at hrel ⊢
  generalize r'.definition? id = found' at hrel ⊢
  cases hrel with
  | some halike => exact .inl ⟨_, _, _, _, rfl, rfl, halike⟩
  | none => exact .inr ⟨rfl, rfl⟩

theorem mentions_iff (h : r.AgreeFrom r' root) (hid : r.Closure root id) (ref : String) :
    r.Mentions id ref ↔ r'.Mentions id ref := by
  rcases h.lookup hid with ⟨p, d, p', d', hfind, hfind', halike⟩ | ⟨hnone, hnone'⟩
  · simp [Mentions, hfind, hfind', halike.criteria_eq]
  · simp [Mentions, hnone, hnone']

theorem transGen_mentions_iff (h : r.AgreeFrom r' root) (hid : r.Closure root id) (ref : String) :
    Relation.TransGen r.Mentions id ref ↔ Relation.TransGen r'.Mentions id ref := by
  constructor
  · intro hpath
    induction hpath with
    | single hmentions => exact .single ((h.mentions_iff hid _).mp hmentions)
    | tail hpath hmentions ih =>
      exact ih.tail ((h.mentions_iff (hid.trans hpath.to_reflTransGen) _).mp hmentions)
  · intro hpath
    induction hpath with
    | single hmentions => exact .single ((h.mentions_iff hid _).mpr hmentions)
    | tail _ hmentions ih =>
      exact ih.tail ((h.mentions_iff (hid.trans ih.to_reflTransGen) _).mpr hmentions)

theorem isCyclic_eq (h : r.AgreeFrom r' root) (hr : r.WellFormed) (hr' : r'.WellFormed)
    (hid : r.Closure root id) : r.isCyclic id = r'.isCyclic id := by
  rw [Bool.eq_iff_iff, isCyclic_iff_transGen_mentions hr, isCyclic_iff_transGen_mentions hr']
  exact h.transGen_mentions_iff hid id

end AgreeFrom

/-- Lists that are closed under the references of leaves contain all that a root depends on, so it
is enough to compare the registries on them. -/
theorem agreeFrom_of_within (ids testRefs : List String) (hroot : root ∈ ids)
    (hwithin : ∀ id ∈ ids, ∀ found ∈ r.definition? id,
      ∀ l ∈ found.2.criteria.node.leafList, l.Within ids testRefs)
    (hdefinition : ∀ id ∈ ids, Option.Rel (fun found found' => found.2.Alike found'.2)
      (r.definition? id) (r'.definition? id))
    (htest : ∀ testRef ∈ testRefs, r.test? testRef = r'.test? testRef)
    (hobject : ∀ testRef ∈ testRefs, ∀ t ∈ r.test? testRef,
      r.object? t.test.objectRef = r'.object? t.test.objectRef)
    (hstate : ∀ testRef ∈ testRefs, ∀ t ∈ r.test? testRef, ∀ stateRef ∈ t.test.stateRefs,
      r.state? stateRef = r'.state? stateRef) : r.AgreeFrom r' root := by
  have hclosure (id : String) (hid : r.Closure root id) : id ∈ ids := by
    induction hid with
    | refl => exact hroot
    | tail _ hmentions ih =>
      obtain ⟨p, d, hfind, hnames⟩ := hmentions
      exact hwithin _ ih (p, d) hfind _ ((Node.extend_mem_leafList_iff _ _).mpr hnames)
  have hconsults (testRef : String) (h : r.Consults root testRef) : testRef ∈ testRefs := by
    obtain ⟨id, p, d, hid, hfind, hl⟩ := h
    exact hwithin id (hclosure id hid) (p, d) hfind _ hl
  exact {
    definition := fun id hid => hdefinition id (hclosure id hid)
    test := fun testRef h => htest testRef (hconsults testRef h)
    object := fun testRef t h => hobject testRef (hconsults testRef h) t
    state := fun testRef t h => hstate testRef (hconsults testRef h) t }

/-- The definitions at two positions are found under one identifier in the closure of the root. -/
def Twins (r r' : Registry) (root : String) (found found' : Nat × Definition) : Prop :=
  ∃ id, r.Closure root id ∧ r.definition? id = some found ∧ r'.definition? id = some found'

namespace Twins

variable {q p' q' : Nat} {c d' c' : Definition}

theorem alike (h : r.Twins r' root (p, d) (p', d')) (hagree : r.AgreeFrom r' root) :
    d.Alike d' := by
  obtain ⟨id, hid, hfind, hfind'⟩ := h
  have hrel := hagree.definition id hid
  rw [hfind, hfind'] at hrel
  cases hrel with
  | some halike => exact halike

theorem getElem?_left (h : r.Twins r' root (p, d) (p', d')) (hr : r.WellFormed) :
    r.definitions[p]? = some d := by
  obtain ⟨_, -, hfind, -⟩ := h
  exact hr.getElem?_of_definition? hfind

theorem getElem?_right (h : r.Twins r' root (p, d) (p', d')) (hr' : r'.WellFormed) :
    r'.definitions[p']? = some d' := by
  obtain ⟨_, -, -, hfind'⟩ := h
  exact hr'.getElem?_of_definition? hfind'

theorem self (h : r.Twins r' root (p, d) (p', d')) (hr : r.WellFormed) :
    r.Closure root d.id ∧ r.definition? d.id = some (p, d) := by
  obtain ⟨id, hid, hfind, -⟩ := h
  rw [hr.id_of_definition? hfind]
  exact ⟨hid, hfind⟩

theorem position_eq_iff (hr : r.WellFormed) (hr' : r'.WellFormed)
    (hp : r.Twins r' root (p, d) (p', d')) (hq : r.Twins r' root (q, c) (q', c')) :
    p = q ↔ p' = q' := by
  obtain ⟨id, -, hfind, hfind'⟩ := hp
  obtain ⟨ref, -, hfound, hfound'⟩ := hq
  constructor
  · rintro rfl
    obtain rfl := hr.eq_of_definition? hfind hfound
    cases hfind'.symm.trans hfound'
    rfl
  · rintro rfl
    obtain rfl := hr'.eq_of_definition? hfind' hfound'
    cases hfind.symm.trans hfound
    rfl

end Twins

end Registry
end Oval
