import Mathlib.Data.Finset.Card
import Mathlib.Data.List.Forall2
import Mathlib.Data.List.Induction
import Mathlib.Data.List.Nodup
import Mathlib.Data.List.Sigma
import Oval.Registry

/-! # Looking up is a scan for the first match

Indexes hold places, and what is found is read at its place.  The result is what a search through
the entities in their order finds first.  An entity that is not in its index repeats the identifier
of an earlier one, and building the registry reports it once.
-/
namespace Oval

namespace Index

variable {α β : Type}

theorem insertAll_append (ix : Index α) (entries others : List (String × α)) :
    ix.insertAll (entries ++ others) = (ix.insertAll entries).insertAll others :=
  List.foldl_append

theorem insertAll_singleton (ix : Index α) (entry : String × α) :
    ix.insertAll [entry] = ix.insertNew entry.1 entry.2 := rfl

theorem refused_append (ix : Index α) (entries others : List (String × α)) :
    ix.refused (entries ++ others) =
      ix.refused entries ++ (ix.insertAll entries).refused others := by
  induction entries generalizing ix with
  | nil => rfl
  | cons entry r ih =>
    have hstep : ix.insertAll (entry :: r) =
        (ix.insertNew entry.1 entry.2).insertAll r := rfl
    rw [List.cons_append, refused, refused, hstep]
    cases hfind : ix.find? entry.1 with
    | some kept =>
      have hsame : ix.insertNew entry.1 entry.2 = ix := by rw [insertNew, hfind]
      simp only [hsame, ih, List.cons_append]
    | none => exact ih _

theorem find?_insertAll_empty (entries : List (String × α)) (id : String) :
    (empty.insertAll entries).find? id = entries.lookup id := by
  rw [find?_insertAll, find?_empty, Option.none_or]

theorem lookup_eq_none_iff {entries : List (String × α)} {id : String} :
    entries.lookup id = none ↔ id ∉ entries.map Prod.fst := by
  rw [List.lookup_eq_none_iff, List.mem_map]
  constructor
  · rintro h ⟨entry, hmem, rfl⟩
    simpa using h entry hmem
  · intro h entry hmem
    rw [bne_iff_ne]
    rintro rfl
    exact h ⟨entry, hmem, rfl⟩

/-- The entry has the identifier of an entity and leads to it. -/
structure Locates (ident : β → String) (at? : α → Option β) (entry : String × α) (b : β) :
    Prop where
  ident_eq : entry.1 = ident b
  found : at? entry.2 = some b

variable {ident : β → String} {at? : α → Option β} {entries : List (String × α)} {bs : List β}

/-- Reading at the place of the first entry finds the first entity. -/
theorem bind_lookup_eq_find? (h : List.Forall₂ (Locates ident at?) entries bs) (id : String) :
    (entries.lookup id).bind at? = bs.find? fun b => ident b == id := by
  induction h with
  | nil => rfl
  | @cons entry b entries bs hentry _ ih =>
    rw [List.lookup_cons, List.find?_cons, ← hentry.ident_eq]
    by_cases hid : id = entry.1
    · subst hid
      simp [hentry.found]
    · have hne : (id == entry.1) = false := by simpa using hid
      have hne' : (entry.1 == id) = false := by simpa using Ne.symm hid
      simp only [hne, hne', ih]

/-- The refusal of an entry tells what its identifier finds in its place. -/
structure Refuses (ix : Index α) (entry : String × α) (refusal : String × α × α) : Prop where
  kept : ix.find? entry.1 = some refusal.2.1
  refusal_eq : refusal = (entry.1, refusal.2.1, entry.2)

theorem Refuses.insertAll {ix : Index α} {entry : String × α} {refusal : String × α × α}
    (h : ix.Refuses entry refusal) (others : List (String × α)) :
    (ix.insertAll others).Refuses entry refusal where
  kept := by rw [find?_insertAll, h.kept, Option.some_or]
  refusal_eq := h.refusal_eq

variable [DecidableEq α]

/-- The index holds some of the entries, in order, and it refuses each of the others once, in order
as well. -/
structure Divides (ix : Index α) (entries : List (String × α)) (refusals : List (String × α × α)) :
    Prop where
  nodup : entries.Nodup
  indexed : ix.entries.Sublist entries
  refused : List.Forall₂ ix.Refuses (entries.filter fun entry => entry ∉ ix.entries) refusals

variable {ix : Index α} {refusals : List (String × α × α)} {entry : String × α}

theorem Divides.nodup_append_singleton (h : ix.Divides entries refusals) (hnew : entry ∉ entries) :
    (entries ++ [entry]).Nodup := by
  rw [← List.concat_eq_append]
  exact List.Nodup.concat hnew h.nodup

theorem Divides.refuse (h : ix.Divides entries refusals) (hnew : entry ∉ entries) {kept : α}
    (hfind : ix.find? entry.1 = some kept) :
    ix.Divides (entries ++ [entry]) (refusals ++ [(entry.1, kept, entry.2)]) where
  nodup := h.nodup_append_singleton hnew
  indexed := h.indexed.trans (List.sublist_append_left entries [entry])
  refused := by
    have hout : entry ∉ ix.entries := fun hmem => hnew (h.indexed.subset hmem)
    rw [List.filter_append, List.filter_singleton, decide_eq_true hout]
    exact List.rel_append h.refused (.cons ⟨hfind, rfl⟩ .nil)

theorem Divides.insertNew (h : ix.Divides entries refusals) (hnew : entry ∉ entries)
    (hfind : ix.find? entry.1 = none) :
    (ix.insertNew entry.1 entry.2).Divides (entries ++ [entry]) refusals := by
  have hentries : (ix.insertNew entry.1 entry.2).entries = ix.entries ++ [entry] := by
    rw [Index.insertNew, hfind]
  refine ⟨h.nodup_append_singleton hnew, ?_, ?_⟩
  · rw [hentries]
    exact h.indexed.append (List.Sublist.refl [entry])
  · have hearlier : entries.filter (fun e => e ∉ ix.entries ++ [entry]) =
        entries.filter fun e => e ∉ ix.entries := by
      apply List.filter_congr
      intro e he
      have hne : e ≠ entry := fun heq => hnew (heq ▸ he)
      simp [hne]
    have hlater := h.refused.imp fun _ _ ha => ha.insertAll [entry]
    rw [insertAll_singleton] at hlater
    rw [hentries, List.filter_append, hearlier, List.filter_singleton]
    simpa using hlater

theorem divides_insertAll (h : entries.Nodup) :
    (empty.insertAll entries).Divides entries (empty.refused entries) := by
  induction entries using List.reverseRecOn with
  | nil => exact ⟨List.nodup_nil, List.Sublist.refl [], .nil⟩
  | append_singleton entries entry ih =>
    obtain ⟨hnodup, -, hdisjoint⟩ := List.nodup_append.mp h
    have hnew : entry ∉ entries := fun hmem => hdisjoint entry hmem entry (by simp) rfl
    rw [insertAll_append, insertAll_singleton, refused_append]
    cases hfind : (empty.insertAll entries).find? entry.1 with
    | some kept =>
      have hsame : (empty.insertAll entries).insertNew entry.1 entry.2 =
          empty.insertAll entries := by rw [Index.insertNew, hfind]
      have hrefusal : (empty.insertAll entries).refused [entry] =
          [(entry.1, kept, entry.2)] := by simp only [refused, hfind]
      rw [hsame, hrefusal]
      exact (ih hnodup).refuse hnew hfind
    | none =>
      have hrefusal : (empty.insertAll entries).refused [entry] = [] := by
        simp only [refused, hfind]
      rw [hrefusal, List.append_nil]
      exact (ih hnodup).insertNew hnew hfind

omit [DecidableEq α] in
theorem size_insertAll (entries : List (String × α)) :
    (empty.insertAll entries).size = (entries.map Prod.fst).toFinset.card := by
  induction entries using List.reverseRecOn with
  | nil => rfl
  | append_singleton entries entry ih =>
    have hinsert : ((entries ++ [entry]).map Prod.fst).toFinset =
        insert entry.1 (entries.map Prod.fst).toFinset := by
      ext id
      simp
    have hmem : (empty.insertAll entries).find? entry.1 = none ↔
        entry.1 ∉ (entries.map Prod.fst).toFinset := by
      rw [find?_insertAll_empty, lookup_eq_none_iff, List.mem_toFinset]
    rw [insertAll_append, insertAll_singleton, hinsert, Index.insertNew]
    cases hfind : (empty.insertAll entries).find? entry.1 with
    | none =>
      rw [Finset.card_insert_of_notMem (hmem.mp hfind), ← ih]
      exact List.length_append
    | some kept =>
      rw [Finset.insert_eq_of_mem, ← ih]
      by_contra hnot
      cases hfind.symm.trans (hmem.mpr hnot)

end Index

namespace Collections

variable {P T : Type} (c : Collections P T)

/-- All entities with their kinds: the collections one after the other, each in document order. -/
def inOrder : List (Tagged P T) :=
  c.rpminfo.map (.package .rpm) ++ c.dpkginfo.map (.package .dpkg) ++ c.textfilecontent54.map .text

theorem inOrder_eq_flatMap : c.inOrder = Kind.lookupOrder.flatMap c.ofKind := by
  simp [inOrder, Kind.lookupOrder, ofKind]

theorem at?_eq_getElem? (slot : Slot) : c.at? slot = (c.ofKind slot.kind)[slot.position]? := by
  obtain ⟨kind, position⟩ := slot
  cases kind <;> simp [at?, ofKind]

variable [Identified P] [Identified T]

theorem slotsOf_eq_map_zipIdx (kind : Kind) :
    c.slotsOf kind = (c.ofKind kind).zipIdx.map fun e => (e.1.ident, ⟨kind, e.2⟩) := by
  simp [slotsOf, ids, List.zipIdx_map]

theorem forall₂_slotsOf (kind : Kind) :
    List.Forall₂ (Index.Locates Tagged.ident c.at?) (c.slotsOf kind) (c.ofKind kind) := by
  have hzip := List.zipIdx_map_fst 0 (c.ofKind kind)
  rw [slotsOf_eq_map_zipIdx]
  nth_rewrite 2 [← hzip]
  rw [List.forall₂_map_left_iff, List.forall₂_map_right_iff, List.forall₂_same]
  intro e he
  exact ⟨rfl, by rw [at?_eq_getElem?]; exact List.mem_zipIdx_iff_getElem?.mp he⟩

/-- Each place is that of the entity whose identifier stands with it. -/
theorem forall₂_slots :
    List.Forall₂ (Index.Locates Tagged.ident c.at?) c.slots c.inOrder := by
  rw [inOrder_eq_flatMap]
  apply List.rel_flatMap (R := Eq) (List.forall₂_same.mpr fun _ _ => rfl)
  rintro kind _ rfl
  exact forall₂_slotsOf c kind

theorem kind_of_mem_slotsOf {kind : Kind} {entry : String × Slot}
    (h : entry ∈ c.slotsOf kind) : entry.2.kind = kind := by
  obtain ⟨_, -, rfl⟩ := List.mem_map.mp h
  rfl

theorem nodup_slots : c.slots.Nodup := by
  rw [slots, List.nodup_flatMap]
  constructor
  · intro kind _
    have hpositions : (c.slotsOf kind).map (·.2.position) = (c.ids kind).zipIdx.map Prod.snd := by
      rw [slotsOf, List.map_map]
      rfl
    apply List.Nodup.of_map (·.2.position)
    rw [hpositions]
    exact List.nodup_zipIdx_map_snd (c.ids kind)
  · have hkinds : Kind.lookupOrder.Nodup := by decide
    apply hkinds.imp
    intro kind kind' hne entry hmem hmem'
    exact hne ((kind_of_mem_slotsOf c hmem).symm.trans (kind_of_mem_slotsOf c hmem'))

theorem map_fst_slots : c.slots.map Prod.fst = c.inOrder.map Tagged.ident := by
  rw [← List.forall₂_eq_eq_eq, List.forall₂_map_left_iff, List.forall₂_map_right_iff]
  exact (forall₂_slots c).imp fun _ _ h => h.ident_eq

end Collections

namespace Registry

section Finding

variable {P T : Type} [Identified P] [Identified T] (c : Collections P T) (id : String)

theorem bind_find?_indexSlots :
    ((indexSlots c).find? id).bind c.at? = c.inOrder.find? fun e => e.ident == id := by
  rw [indexSlots, Index.find?_insertAll_empty]
  exact Index.bind_lookup_eq_find? (Collections.forall₂_slots c) id

theorem find?_inOrder_eq_none_iff :
    (c.inOrder.find? fun e => e.ident == id) = none ↔ id ∉ c.inOrder.map Tagged.ident := by
  rw [List.find?_eq_none]
  simp

end Finding

theorem forall₂_positions (definitions : List Definition) :
    List.Forall₂
      (Index.Locates (·.2.id) fun i => (definitions[i]?).map fun d => (i, d))
      (positions definitions) (numbered definitions) := by
  rw [positions, numbered, List.forall₂_map_left_iff, List.forall₂_map_right_iff,
    List.forall₂_same]
  intro e he
  exact ⟨rfl, by rw [List.mem_zipIdx_iff_getElem?.mp he]; rfl⟩

theorem nodup_positions (definitions : List Definition) : (positions definitions).Nodup := by
  have hpositions : (positions definitions).map Prod.snd = definitions.zipIdx.map Prod.snd := by
    rw [positions, List.map_map]
    rfl
  apply List.Nodup.of_map Prod.snd
  rw [hpositions]
  exact List.nodup_zipIdx_map_snd definitions

theorem definition?_ofDocument (doc : Document) (id : String) :
    (ofDocument doc).definition? id = (numbered doc.definitions).find? fun a => a.2.id == id := by
  have hfind : (ofDocument doc).definitionIndex.find? id =
      (positions doc.definitions).lookup id := Index.find?_insertAll_empty _ id
  rw [definition?, hfind]
  exact Index.bind_lookup_eq_find? (forall₂_positions doc.definitions) id

theorem map_snd_definition?_ofDocument (doc : Document) (id : String) :
    ((ofDocument doc).definition? id).map Prod.snd = doc.definitions.find? fun d => d.id == id := by
  have hnumbered : (numbered doc.definitions).map Prod.snd = doc.definitions := by
    rw [numbered, List.map_map]
    exact List.zipIdx_map_fst 0 doc.definitions
  rw [definition?_ofDocument]
  nth_rewrite 2 [← hnumbered]
  rw [List.find?_map]
  rfl

theorem map_fst_definition?_ofDocument (doc : Document) (id : String) :
    ((ofDocument doc).definition? id).map Prod.fst =
      (indexDefinitions doc.definitions).find? id := by
  rw [definition?_ofDocument, indexDefinitions, Index.find?_insertAll_empty, numbered, positions]
  induction doc.definitions.zipIdx with
  | nil => rfl
  | cons e r ih =>
    rw [List.map_cons, List.map_cons, List.find?_cons, List.lookup_cons]
    by_cases hid : id = e.1.id
    · subst hid
      simp
    · have hne : (id == e.1.id) = false := by simpa using hid
      have hne' : (e.1.id == id) = false := by simpa using Ne.symm hid
      simp only [hne, hne', ih]

end Registry

def Event.duplicateRole? : Event → Option Entity
  | duplicateDefinition _ => some .definition
  | duplicateEntity role .. => some role
  | _ => none

/-- The report that an entity is not indexed: what its identifier is, and the kind of what is kept
and of what is not. -/
def Event.ofRefusal (role : Entity) : String × Slot × Slot → Event
  | (id, kept, ignored) => duplicateEntity role id kept.kind ignored.kind

namespace Registry

/-- The reports of duplicates among the entities of a role, as building makes them. -/
def duplicateReports (doc : Document) (role : Entity) : List Event :=
  (buildEvents doc).filter fun event => event.duplicateRole? = some role

section Duplicates

variable {P T : Type} [Identified P] [Identified T] (c : Collections P T)

theorem flatMap_duplicatesOfKind (role : Entity) :
    Kind.lookupOrder.flatMap (duplicatesOfKind role c) =
      (Index.empty.refused c.slots).map (Event.ofRefusal role) := by
  have hslots : c.slots = c.slotsOf .rpminfo ++ (c.slotsOf .dpkginfo ++
      c.slotsOf .textfilecontent54) := by
    simp [Collections.slots, Kind.lookupOrder]
  have hrpminfo : indexBefore c .rpminfo = Index.empty := rfl
  have hdpkginfo : indexBefore c .dpkginfo = Index.empty.insertAll (c.slotsOf .rpminfo) := by
    simp [indexBefore, Kind.lookupOrder]
  have htext : indexBefore c .textfilecontent54 =
      (Index.empty.insertAll (c.slotsOf .rpminfo)).insertAll (c.slotsOf .dpkginfo) := by
    simp [indexBefore, Kind.lookupOrder, Index.insertAll_append]
  rw [hslots, Index.refused_append, Index.refused_append, List.map_append, List.map_append]
  simp only [Kind.lookupOrder, List.flatMap_cons, List.flatMap_nil, List.append_nil,
    duplicatesOfKind, hrpminfo, hdpkginfo, htext]
  rfl

theorem filter_duplicatesOfKind (role role' : Entity) (kind : Kind) :
    (duplicatesOfKind role c kind).filter (fun event => event.duplicateRole? = some role') =
      if role = role' then duplicatesOfKind role c kind else [] := by
  rw [duplicatesOfKind, List.filter_map]
  by_cases hrole : role = role' <;> simp [hrole, Function.comp_def, Event.duplicateRole?]

end Duplicates

theorem filter_duplicateDefinitions (definitions : List Definition) (role : Entity) :
    (duplicateDefinitions definitions).filter (fun event => event.duplicateRole? = some role) =
      if role = .definition then duplicateDefinitions definitions else [] := by
  rw [duplicateDefinitions, List.filter_map]
  by_cases hrole : role = .definition
  · simp [hrole, Function.comp_def, Event.duplicateRole?]
  · simp [hrole, Ne.symm hrole, Function.comp_def, Event.duplicateRole?]

variable (doc : Document)

theorem duplicateReports_eq (role : Entity) :
    duplicateReports doc role =
      match role with
      | .definition => duplicateDefinitions doc.definitions
      | .test => (Index.empty.refused doc.tests.slots).map (Event.ofRefusal .test)
      | .object => (Index.empty.refused doc.objects.slots).map (Event.ofRefusal .object)
      | .state => (Index.empty.refused doc.states.slots).map (Event.ofRefusal .state) := by
  have hcyclic (ids : List String) : (ids.map Event.cyclicDefinition).filter
      (fun event => event.duplicateRole? = some role) = [] := by
    simp [List.filter_map, Function.comp_def, Event.duplicateRole?]
  have hbuilt (a b c d e : Nat) : [Event.registryBuilt a b c d e].filter
      (fun event => event.duplicateRole? = some role) = [] := by
    simp [Event.duplicateRole?]
  simp only [duplicateReports, buildEvents, List.filter_append, List.filter_flatMap,
    filter_duplicateDefinitions, filter_duplicatesOfKind, hcyclic, hbuilt]
  cases role <;> simp [← flatMap_duplicatesOfKind]

example :
    let test (id : String) : Test := { id, objectRef := "o" }
    duplicateReports { tests := ⟨[test "x", test "x"], [test "x", test "y"], [test "y"]⟩ } .test =
      [.duplicateEntity .test "x" .rpminfo .rpminfo, .duplicateEntity .test "x" .rpminfo .dpkginfo,
        .duplicateEntity .test "y" .dpkginfo .textfilecontent54] := by
  decide +kernel

/-- Each entity has an entry that leads to it, and each entry is in the index or is refused, never
both.  The events report the refusals, one by one. -/
structure Accounts {P T : Type} [Identified P] [Identified T] (c : Collections P T)
    (role : Entity) (ix : Index Slot) (events : List Event) : Prop where
  located : List.Forall₂ (Index.Locates Tagged.ident c.at?) c.slots c.inOrder
  divided : ∃ refusals, ix.Divides c.slots refusals ∧ events = refusals.map (Event.ofRefusal role)

theorem accounts_indexSlots {P T : Type} [Identified P] [Identified T] (c : Collections P T)
    (role : Entity) :
    Accounts c role (indexSlots c) ((Index.empty.refused c.slots).map (Event.ofRefusal role)) where
  located := c.forall₂_slots
  divided := ⟨_, Index.divides_insertAll c.nodup_slots, rfl⟩

theorem testCount_ofDocument :
    (ofDocument doc).testCount = (doc.tests.inOrder.map Tagged.ident).toFinset.card := by
  rw [← Collections.map_fst_slots]
  exact Index.size_insertAll doc.tests.slots

/-- An identifier finds the first entity that has it, with the kind of its collection, and nothing
if none has it.  What is not indexed is what is reported as a duplicate, once each. -/
theorem lookups_exact (doc : Document) :
    let r := ofDocument doc
    (∀ id, r.test? id = doc.tests.inOrder.find? (fun t => t.ident == id) ∧
      (r.test? id = none ↔ id ∉ doc.tests.inOrder.map Tagged.ident)) ∧
    (∀ id, r.object? id = doc.objects.inOrder.find? (fun o => o.ident == id) ∧
      (r.object? id = none ↔ id ∉ doc.objects.inOrder.map Tagged.ident)) ∧
    (∀ id, r.state? id = doc.states.inOrder.find? (fun s => s.ident == id) ∧
      (r.state? id = none ↔ id ∉ doc.states.inOrder.map Tagged.ident)) ∧
    (∀ id, (r.definition? id).map Prod.snd = doc.definitions.find? (fun d => d.id == id) ∧
      (r.definition? id = none ↔ id ∉ doc.definitions.map Definition.id)) ∧
    r.testCount = (doc.tests.inOrder.map Tagged.ident).toFinset.card ∧
    Accounts doc.tests .test r.testIndex (duplicateReports doc .test) ∧
    Accounts doc.objects .object r.objectIndex (duplicateReports doc .object) ∧
    Accounts doc.states .state r.stateIndex (duplicateReports doc .state) ∧
    ∃ refusals, r.definitionIndex.Divides (positions doc.definitions) refusals ∧
      duplicateReports doc .definition = refusals.map fun e => .duplicateDefinition e.1 := by
  intro r
  have hscan {P T : Type} [Identified P] [Identified T] (c : Collections P T) (id : String) :
      ((indexSlots c).find? id).bind c.at? = c.inOrder.find? (fun e => e.ident == id) ∧
        (((indexSlots c).find? id).bind c.at? = none ↔ id ∉ c.inOrder.map Tagged.ident) := by
    rw [bind_find?_indexSlots]
    exact ⟨rfl, find?_inOrder_eq_none_iff c id⟩
  have hdefinition (id : String) := map_snd_definition?_ofDocument doc id
  refine ⟨hscan doc.tests, hscan doc.objects, hscan doc.states, ?_, testCount_ofDocument doc,
    ?_, ?_, ?_, ?_⟩
  · intro id
    refine ⟨hdefinition id, ?_⟩
    rw [← Option.map_eq_none_iff (f := Prod.snd), hdefinition, List.find?_eq_none]
    simp
  · rw [duplicateReports_eq]
    exact accounts_indexSlots doc.tests .test
  · rw [duplicateReports_eq]
    exact accounts_indexSlots doc.objects .object
  · rw [duplicateReports_eq]
    exact accounts_indexSlots doc.states .state
  · rw [duplicateReports_eq]
    exact ⟨_, Index.divides_insertAll (nodup_positions doc.definitions), rfl⟩

end Registry

end Oval
