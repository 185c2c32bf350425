import Oval.Proofs.Criteria.Leaf
import Oval.Proofs.Registry.Lookup
import Oval.Proofs.Registry.Reach

/-! # Extension between definitions

A definition extends those that the extend leaves of its tree find.  Among the identifiers, exactly
those of definitions that extend themselves, over any number of others, are found cyclic.  So
what an evaluation follows, extensions of definitions that are not cyclic, leads nowhere back, and
the number of definitions ahead is a rank that goes down on the way.
-/
namespace Oval

/-- A definition whose tree extends the given ones, in order, and has no other leaves. -/
def Definition.extending (id : String) (refs : List String) : Definition where
  id
  criteria := { children := refs.map (.extend · false none) }

namespace Registry

theorem mem_numbered_iff {definitions : List Definition} {p : Nat} {d : Definition} :
    (p, d) ∈ numbered definitions ↔ definitions[p]? = some d := by
  simp only [numbered, List.mem_map, Prod.mk.injEq, Prod.exists]
  constructor
  · rintro ⟨d', p', hmem, rfl, rfl⟩
    exact List.mem_zipIdx_iff_getElem?.mp hmem
  · intro h
    exact ⟨d, p, List.mem_zipIdx_iff_getElem?.mpr h, rfl, rfl⟩

/-- The definition at position `p` has an extend leaf that finds the definition at `q`. -/
def Extends (r : Registry) (p q : Nat) : Prop :=
  ∃ d ref d', r.definitions[p]? = some d ∧ d.criteria.node.Names ref ∧
    r.definition? ref = some (q, d')

/-- The identifier finds a definition from which extensions, one or more, lead back to it. -/
def OnCycle (r : Registry) (id : String) : Prop :=
  ∃ p d, r.definition? id = some (p, d) ∧ Relation.TransGen r.Extends p p

/-- What the registry of a document promises: an identifier finds a definition that has it, every
definition's identifier finds one, and the cyclic identifiers are those on a cycle. -/
structure WellFormed (r : Registry) : Prop where
  getElem?_of_definition? {id : String} {p : Nat} {d : Definition} :
    r.definition? id = some (p, d) → r.definitions[p]? = some d
  id_of_definition? {id : String} {p : Nat} {d : Definition} :
    r.definition? id = some (p, d) → d.id = id
  isCyclic_iff (id : String) : r.isCyclic id = true ↔ r.OnCycle id

section Document

variable (doc : Document)

theorem getElem?_of_definition?_ofDocument {id : String} {p : Nat} {d : Definition}
    (h : (ofDocument doc).definition? id = some (p, d)) :
    (ofDocument doc).definitions[p]? = some d := by
  rw [definition?_ofDocument] at h
  exact mem_numbered_iff.mp (List.mem_of_find?_eq_some h)

theorem id_of_definition?_ofDocument {id : String} {p : Nat} {d : Definition}
    (h : (ofDocument doc).definition? id = some (p, d)) : d.id = id := by
  rw [definition?_ofDocument] at h
  simpa using List.find?_some h

/-- The targets of a position are what the references of its definition find, in document order. -/
theorem targets_extendGraph (p : Nat) :
    (extendGraph doc.definitions (indexDefinitions doc.definitions)).targets p =
      ((doc.definitions[p]?).map fun d => d.criteria.extendRefs.filterMap fun ref =>
        ((ofDocument doc).definition? ref).map (·.1)).getD [] := by
  have hfind : (indexDefinitions doc.definitions).find? =
      fun ref => ((ofDocument doc).definition? ref).map (·.1) :=
    funext fun ref => (map_fst_definition?_ofDocument doc ref).symm
  simp [extendGraph, Graph.targets, hfind]

theorem edge_extendGraph_iff (p q : Nat) :
    (extendGraph doc.definitions (indexDefinitions doc.definitions)).Edge p q ↔
      (ofDocument doc).Extends p q := by
  rw [Graph.Edge, targets_extendGraph]
  constructor
  · intro h
    cases hp : doc.definitions[p]? with
    | none => simp [hp] at h
    | some d =>
      rw [hp, Option.map_some, Option.getD_some, List.mem_filterMap] at h
      obtain ⟨ref, href, hfound⟩ := h
      obtain ⟨⟨q', d'⟩, hfind, rfl⟩ := Option.map_eq_some_iff.mp hfound
      exact ⟨d, ref, d', hp, (Node.mem_extendRefs_iff _ _).mp href, hfind⟩
  · rintro ⟨d, ref, d', hp, hnames, hfind⟩
    have hp' : doc.definitions[p]? = some d := hp
    rw [hp', Option.map_some, Option.getD_some, List.mem_filterMap]
    exact ⟨ref, (Node.mem_extendRefs_iff _ _).mpr hnames, by rw [hfind]; rfl⟩

theorem definition?_of_transGen_self {p : Nat}
    (h : Relation.TransGen (ofDocument doc).Extends p p) :
    ∃ d, (ofDocument doc).definition? d.id = some (p, d) := by
  obtain ⟨x, -, d, ref, d', -, -, hfind⟩ := Relation.TransGen.tail'_iff.mp h
  have hid := id_of_definition?_ofDocument doc hfind
  exact ⟨d', by rw [hid]; exact hfind⟩

theorem isCyclic_ofDocument_iff (id : String) :
    (ofDocument doc).isCyclic id = true ↔ (ofDocument doc).OnCycle id := by
  have hedge : (extendGraph doc.definitions (indexDefinitions doc.definitions)).Edge =
      (ofDocument doc).Extends := by
    funext p q
    exact propext (edge_extendGraph_iff doc p q)
  have hmem : (ofDocument doc).isCyclic id = true ↔ ∃ p d,
      Relation.TransGen (ofDocument doc).Extends p p ∧ doc.definitions[p]? = some d ∧
        d.id = id := by
    simp only [isCyclic, ofDocument, findCyclicIds, List.contains_iff_mem, List.mem_mergeSort,
      List.mem_eraseDups, List.mem_filterMap, Graph.mem_onCycles_iff]
    simp only [hedge, Option.map_eq_some_iff]
    constructor
    · rintro ⟨p, hp, d, hd, hid⟩
      exact ⟨p, d, hp, hd, hid⟩
    · rintro ⟨p, d, hp, hd, hid⟩
      exact ⟨p, hp, d, hd, hid⟩
  rw [hmem]
  constructor
  · rintro ⟨p, d, hcycle, hp, rfl⟩
    obtain ⟨d', hfind⟩ := definition?_of_transGen_self doc hcycle
    have hp' := getElem?_of_definition?_ofDocument doc hfind
    obtain rfl : d' = d := Option.some.inj (hp'.symm.trans hp)
    exact ⟨p, d', hfind, hcycle⟩
  · rintro ⟨p, d, hfind, hcycle⟩
    exact ⟨p, d, hcycle, getElem?_of_definition?_ofDocument doc hfind,
      id_of_definition?_ofDocument doc hfind⟩

theorem wellFormed_ofDocument : (ofDocument doc).WellFormed where
  getElem?_of_definition? := getElem?_of_definition?_ofDocument doc
  id_of_definition? := id_of_definition?_ofDocument doc
  isCyclic_iff := isCyclic_ofDocument_iff doc

end Document

/-- An extension of a definition that is not cyclic, as an evaluation follows it. -/
def Follows (r : Registry) (p q : Nat) : Prop :=
  ∃ d ref d', r.definitions[p]? = some d ∧ r.isCyclic d.id = false ∧
    d.criteria.node.Names ref ∧ r.definition? ref = some (q, d')

variable {r : Registry}

theorem Follows.extends {p q : Nat} : r.Follows p q → r.Extends p q := by
  rintro ⟨d, ref, d', hp, -, hnames, hfind⟩
  exact ⟨d, ref, d', hp, hnames, hfind⟩

theorem lt_definitionCount_of_getElem? {p : Nat} {d : Definition}
    (hp : r.definitions[p]? = some d) : p < r.definitionCount :=
  (List.getElem?_eq_some_iff.mp hp).1

theorem Follows.lt_definitionCount (hr : r.WellFormed) {p q : Nat} (h : r.Follows p q) :
    q < r.definitionCount := by
  obtain ⟨d, ref, d', -, -, -, hfind⟩ := h
  exact lt_definitionCount_of_getElem? (hr.getElem?_of_definition? hfind)

/-- Following extensions, none or more, leads from `p` to `q`. -/
def Leads (r : Registry) : Nat → Nat → Prop := Relation.ReflTransGen r.Follows

/-- Following extensions never leads back. -/
theorem not_transGen_follows_self (hr : r.WellFormed) (p : Nat) :
    ¬Relation.TransGen r.Follows p p := by
  intro h
  obtain ⟨q, ⟨d, -, -, hp, hcyclic, -, -⟩, -⟩ := Relation.TransGen.head'_iff.mp h
  obtain ⟨x, -, -, ref, d', -, -, -, hfind⟩ := Relation.TransGen.tail'_iff.mp h
  have hp' := hr.getElem?_of_definition? hfind
  obtain rfl : d' = d := Option.some.inj (hp'.symm.trans hp)
  have hid := hr.id_of_definition? hfind
  have hcycle : r.OnCycle d'.id :=
    ⟨p, d', by rw [hid]; exact hfind,
      Relation.TransGen.mono (fun _ _ => Follows.extends) _ _ h⟩
  have htrue := (hr.isCyclic_iff d'.id).mpr hcycle
  rw [hcyclic] at htrue
  cases htrue

open Classical in
/-- The definitions that following extensions from `p` leads to. -/
noncomputable def ahead (r : Registry) (p : Nat) : Finset Nat :=
  (Finset.range r.definitionCount).filter fun q => Relation.TransGen r.Follows p q

/-- The number of definitions ahead. -/
noncomputable def rank (r : Registry) (p : Nat) : Nat := (r.ahead p).card

theorem mem_ahead {p q : Nat} :
    q ∈ r.ahead p ↔ q < r.definitionCount ∧ Relation.TransGen r.Follows p q := by
  simp [ahead]

theorem rank_lt_of_follows (hr : r.WellFormed) {p q : Nat} (h : r.Follows p q) :
    r.rank q < r.rank p := by
  have hsubset : r.ahead q ⊆ r.ahead p := by
    intro x hx
    rw [mem_ahead] at hx ⊢
    exact ⟨hx.1, .head h hx.2⟩
  apply Finset.card_lt_card
  apply (Finset.ssubset_iff_of_subset hsubset).mpr
  refine ⟨q, mem_ahead.mpr ⟨h.lt_definitionCount hr, .single h⟩, ?_⟩
  intro hq
  exact not_transGen_follows_self hr q (mem_ahead.mp hq).2

theorem rank_lt_definitionCount (hr : r.WellFormed) {p : Nat} (hp : p < r.definitionCount) :
    r.rank p < r.definitionCount := by
  have hsubset : r.ahead p ⊆ Finset.range r.definitionCount := by
    intro q hq
    exact Finset.mem_range.mpr (mem_ahead.mp hq).1
  have hlt : (r.ahead p).card < (Finset.range r.definitionCount).card := by
    apply Finset.card_lt_card
    apply (Finset.ssubset_iff_of_subset hsubset).mpr
    refine ⟨p, Finset.mem_range.mpr hp, ?_⟩
    intro hmem
    exact not_transGen_follows_self hr p (mem_ahead.mp hmem).2
  rwa [Finset.card_range] at hlt

/-- A recursion over what is followed comes to the same at every depth beyond the rank. -/
theorem eq_of_rank_lt (hr : r.WellFormed) {α : Type} {f : Nat → Definition → α}
    (step : ∀ k l p d, r.definitions[p]? = some d →
      (∀ q d', r.Follows p q → r.definitions[q]? = some d' → f k d' = f l d') →
      f (k + 1) d = f (l + 1) d)
    {p : Nat} {d : Definition} (hp : r.definitions[p]? = some d) {k l : Nat}
    (hk : r.rank p < k) (hl : r.rank p < l) : f k d = f l d := by
  induction k generalizing p d l with
  | zero => exact absurd hk (Nat.not_lt_zero _)
  | succ k ih =>
    cases l with
    | zero => exact absurd hl (Nat.not_lt_zero _)
    | succ l =>
      apply step k l p d hp
      intro q d' hfollows hq
      have hlt := rank_lt_of_follows hr hfollows
      exact ih hq (by omega) (by omega)

end Registry
end Oval
