import Oval.Assessment
import Oval.Proofs.Criteria.Rewriting
import Oval.Proofs.Registry.Closure

/-! # Registries with a rewritten tree

Rewriting one node in the tree of one definition leaves identifiers, positions, descriptions and
everything but definitions as they are.  The registries find the same tests, and under each
identifier definitions at the same position.  If the trees name the same definitions, the same
identifiers are cyclic.
-/
namespace Oval

variable {P R : Node → Node → Prop}

/-- The definitions differ in their trees at most, and these are related. -/
structure Definition.Revised (P : Node → Node → Prop) (d d' : Definition) : Prop where
  id_eq : d.id = d'.id
  metadata_eq : d.metadata = d'.metadata
  criteria : P d.criteria.node d'.criteria.node

/-- One node in the tree of one definition is replaced, as `R` allows. -/
inductive Document.Rewritten (R : Node → Node → Prop) : Document → Document → Prop
  | intro (doc : Document) (before after : List Definition) (d : Definition) (criteria : Criteria)
    (h : d.criteria.node.Rewritten R criteria.node) :
    Rewritten R { doc with definitions := before ++ d :: after }
      { doc with definitions := before ++ { d with criteria } :: after }

namespace Registry

def RevisedAt (P : Node → Node → Prop) (found found' : Nat × Definition) : Prop :=
  found.1 = found'.1 ∧ found.2.Revised P found'.2

theorem exists_or_of_rel {found found' : Option (Nat × Definition)}
    (h : Option.Rel (RevisedAt P) found found') :
    (∃ p d d', found = some (p, d) ∧ found' = some (p, d') ∧ d.Revised P d') ∨
      (found = none ∧ found' = none) := by
  cases h with
  | none => exact .inr ⟨rfl, rfl⟩
  | @some found found' hfound =>
    obtain ⟨p, d⟩ := found
    obtain ⟨_, d'⟩ := found'
    obtain ⟨rfl, hd⟩ := hfound
    exact .inl ⟨p, d, d', rfl, rfl, hd⟩

/-- The registries differ in the trees of definitions at most, and these are related. -/
structure Revised (P : Node → Node → Prop) (r r' : Registry) : Prop where
  definitions : List.Forall₂ (Definition.Revised P) r.definitions r'.definitions
  definition? (id : String) : Option.Rel (RevisedAt P) (r.definition? id) (r'.definition? id)
  test?_eq (id : String) : r.test? id = r'.test? id
  object?_eq (id : String) : r.object? id = r'.object? id
  state?_eq (id : String) : r.state? id = r'.state? id
  isCyclic_eq (id : String) : r.isCyclic id = r'.isCyclic id

namespace Revised

variable {r r' : Registry} (h : r.Revised P r')
include h

theorem definitionCount_eq : r.definitionCount = r'.definitionCount := h.definitions.length_eq

theorem getElem? {p : Nat} {d d' : Definition} (hp : r.definitions[p]? = some d)
    (hp' : r'.definitions[p]? = some d') : d.Revised P d' := by
  obtain ⟨hlt, rfl⟩ := List.getElem?_eq_some_iff.mp hp
  obtain ⟨hlt', rfl⟩ := List.getElem?_eq_some_iff.mp hp'
  exact h.definitions.get hlt hlt'

theorem position (p : Nat) :
    (∃ d d', r.definitions[p]? = some d ∧ r'.definitions[p]? = some d' ∧ d.Revised P d') ∨
      (r.definitions[p]? = none ∧ r'.definitions[p]? = none) := by
  have hlen := h.definitions.length_eq
  by_cases hlt : p < r.definitions.length
  · have hp := List.getElem?_eq_getElem hlt
    have hp' := List.getElem?_eq_getElem (hlen ▸ hlt)
    exact .inl ⟨_, _, hp, hp', h.getElem? hp hp'⟩
  · have hle : r.definitions.length ≤ p := Nat.le_of_not_lt hlt
    exact .inr ⟨List.getElem?_eq_none hle, List.getElem?_eq_none (hlen ▸ hle)⟩

theorem lookup (id : String) :
    (∃ p d d', r.definition? id = some (p, d) ∧ r'.definition? id = some (p, d') ∧
      d.Revised P d') ∨ (r.definition? id = none ∧ r'.definition? id = none) :=
  exists_or_of_rel (h.definition? id)

theorem assess_eq (inv : Inventory) (t : TaggedTest) : r.assess inv t = r'.assess inv t := by
  simp only [assess, outcomeOf, resolve, objectOf, statesOf, h.object?_eq, h.state?_eq]

end Revised

theorem rel_find? {α β : Type} {Q : α → β → Prop} {p : α → Bool} {q : β → Bool} {as : List α}
    {bs : List β} (h : List.Forall₂ Q as bs) (hpq : ∀ a b, Q a b → p a = q b) :
    Option.Rel Q (as.find? p) (bs.find? q) := by
  induction h with
  | nil => exact .none
  | @cons a b as bs hab _ ih =>
    rw [List.find?_cons, List.find?_cons, hpq a b hab]
    cases q b with
    | true => exact .some hab
    | false => exact ih

theorem forall₂_zipIdx {α β : Type} {Q : α → β → Prop} {as : List α} {bs : List β}
    (h : List.Forall₂ Q as bs) (n : Nat) :
    List.Forall₂ (fun a b => a.2 = b.2 ∧ Q a.1 b.1) (as.zipIdx n) (bs.zipIdx n) := by
  induction h generalizing n with
  | nil => exact .nil
  | cons hab _ ih => exact .cons ⟨rfl, hab⟩ (ih (n + 1))

theorem forall₂_numbered {ds ds' : List Definition}
    (h : List.Forall₂ (Definition.Revised P) ds ds') :
    List.Forall₂ (RevisedAt P) (numbered ds) (numbered ds') := by
  rw [numbered, numbered, List.forall₂_map_left_iff, List.forall₂_map_right_iff]
  exact forall₂_zipIdx h 0

theorem rel_definition?_ofDocument {doc doc' : Document}
    (h : List.Forall₂ (Definition.Revised P) doc.definitions doc'.definitions) (id : String) :
    Option.Rel (RevisedAt P) ((ofDocument doc).definition? id)
      ((ofDocument doc').definition? id) := by
  rw [definition?_ofDocument, definition?_ofDocument]
  apply rel_find? (forall₂_numbered h)
  rintro found found' ⟨-, hfound⟩
  rw [hfound.id_eq]

/-- The same identifiers are cyclic if related trees have the same leaves. -/
theorem isCyclic_ofDocument_eq {doc doc' : Document}
    (h : List.Forall₂ (Definition.Revised P) doc.definitions doc'.definitions)
    (hleaves : ∀ n n', P n n' → n.leafList.Perm n'.leafList) (id : String) :
    (ofDocument doc).isCyclic id = (ofDocument doc').isCyclic id := by
  have hmentions : (ofDocument doc).Mentions = (ofDocument doc').Mentions := by
    funext id ref
    rw [Mentions, Mentions]
    rcases exists_or_of_rel (rel_definition?_ofDocument h id) with
      ⟨p, d, d', hfind, hfind', hd⟩ | ⟨hnone, hnone'⟩
    · simp [hfind, hfind', Node.names_iff_of_leafList_perm (hleaves _ _ hd.criteria)]
    · simp [hnone, hnone']
  rw [Bool.eq_iff_iff, isCyclic_iff_transGen_mentions (wellFormed_ofDocument doc),
    isCyclic_iff_transGen_mentions (wellFormed_ofDocument doc'), hmentions]

/-- A document is rewritten within any relation of trees that the replacement stays in. -/
theorem revised_ofDocument {doc doc' : Document} (h : doc.Rewritten R doc')
    (hrefl : ∀ n, P n n) (hR : ∀ n n', n.Rewritten R n' → P n n')
    (hleaves : ∀ n n', P n n' → n.leafList.Perm n'.leafList) :
    (ofDocument doc).Revised P (ofDocument doc') := by
  obtain ⟨doc, before, after, d, criteria, htree⟩ := h
  have hsame (ds : List Definition) : List.Forall₂ (Definition.Revised P) ds ds :=
    List.forall₂_same.mpr fun d _ => ⟨rfl, rfl, hrefl _⟩
  have hdefinitions : List.Forall₂ (Definition.Revised P) (before ++ d :: after)
      (before ++ { d with criteria } :: after) :=
    List.rel_append (hsame before) (.cons ⟨rfl, rfl, hR _ _ htree⟩ (hsame after))
  exact {
    definitions := hdefinitions
    definition? := rel_definition?_ofDocument hdefinitions
    test?_eq := fun _ => rfl
    object?_eq := fun _ => rfl
    state?_eq := fun _ => rfl
    isCyclic_eq := isCyclic_ofDocument_eq hdefinitions hleaves }

end Registry
end Oval
