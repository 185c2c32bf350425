import Oval.Evaluator
import Oval.Inventory.Json
import Oval.Proofs.Document.RoundTrip

/-! # Inventories are read back

The files of an inventory are a map: reading keeps one content for each path, and the order in
which they are written is free.  The main statement joins inventories with documents: what was
read from a text is written to a text from which the same is read.
-/
namespace Oval

open Json

theorem Package.restores : Restores Package.ofJson? Package.toJson := by
  have htext := restores_string.required
  have harch := restores_string.optional rfl
  refine restores_present (by decide) (fun _ => rfl) ?_ ?_
  · intro p
    simp only [List.forall_mem_cons]
    exact ⟨htext.plain _, htext.plain _, harch.plain _, List.forall_mem_nil _⟩
  · intro fs p h
    split at h
    · simp only [Option.bind_eq_bind, Option.bind_eq_some_iff, Option.some.injEq] at h
      obtain ⟨_, h1, _, h2, _, h3, rfl⟩ := h
      simp [htext.restored h1, htext.restored h2, harch.restored h3]
    · cases h

namespace StaticInventory

theorem mem_paths_putFile {files : List (String × String)} {path content p : String} :
    p ∈ (putFile files path content).map Prod.fst ↔ p = path ∨ p ∈ files.map Prod.fst := by
  induction files with
  | nil => simp [putFile]
  | cons f r ih =>
    obtain ⟨q, c⟩ := f
    rw [putFile]
    split
    · rename_i hq
      simp [hq]
    · rw [List.map_cons, List.mem_cons, ih, List.map_cons, List.mem_cons]
      exact or_left_comm

theorem nodup_putFile {files : List (String × String)} (h : (files.map Prod.fst).Nodup)
    (path content : String) : ((putFile files path content).map Prod.fst).Nodup := by
  induction files with
  | nil => simp [putFile]
  | cons f r ih =>
    obtain ⟨q, c⟩ := f
    obtain ⟨hnot, hr⟩ := List.nodup_cons.mp h
    rw [putFile]
    split
    · rename_i hq
      rw [← hq]
      exact h
    · rename_i hq
      refine List.nodup_cons.mpr ⟨fun hmem => ?_, ih hr⟩
      rcases mem_paths_putFile.mp hmem with heq | hmem
      · exact hq heq
      · exact hnot hmem

theorem putFile_of_not_mem {files : List (String × String)} {path : String}
    (h : path ∉ files.map Prod.fst) (content : String) :
    putFile files path content = files ++ [(path, content)] := by
  induction files with
  | nil => rfl
  | cons f r ih =>
    obtain ⟨q, c⟩ := f
    rw [List.map_cons, List.mem_cons, not_or] at h
    rw [putFile, if_neg (Ne.symm h.1), ih h.2]
    rfl

theorem nodup_foldl_putFile {pairs : List (String × String)} {files : List (String × String)}
    (h : (files.map Prod.fst).Nodup) :
    ((pairs.foldl (fun files (path, content) => putFile files path content) files).map
      Prod.fst).Nodup := by
  induction pairs generalizing files with
  | nil => exact h
  | cons p r ih => exact ih (nodup_putFile h p.1 p.2)

theorem foldl_putFile {pairs : List (String × String)} {files : List (String × String)}
    (h : ((files ++ pairs).map Prod.fst).Nodup) :
    pairs.foldl (fun files (path, content) => putFile files path content) files =
      files ++ pairs := by
  induction pairs generalizing files with
  | nil => simp
  | cons p r ih =>
    have hnot : p.1 ∉ files.map Prod.fst := by
      intro hmem
      rw [List.map_append, List.map_cons] at h
      exact (List.nodup_append.mp h).2.2 _ hmem _ List.mem_cons_self rfl
    rw [List.append_cons] at h ⊢
    rw [← ih h, List.foldl_cons, ← putFile_of_not_mem hnot]

theorem nodup_of_files? {v : Json} {files : List (String × String)} (h : files? v = some files) :
    (files.map Prod.fst).Nodup := by
  cases v with
  | object members =>
    obtain ⟨pairs, -, heq⟩ := Option.bind_eq_some_iff.mp h
    obtain rfl := Option.some.inj heq
    exact nodup_foldl_putFile List.nodup_nil
  | _ => cases h

theorem files?_record {files : List (String × String)} (h : (files.map Prod.fst).Nodup) :
    files? (record (files.map fun (path, content) => (path, .ofString content))) = some files := by
  have hpairs := each?_map (h := id)
    (f := fun m : Option String × Json => do some (← m.1, ← string? m.2))
    (g := fun p : String × String => (some p.1, .ofString p.2)) fun p (_ : p ∈ files) => rfl
  rw [List.map_id] at hpairs
  rw [record, List.map_map]
  exact Option.bind_eq_some_iff.mpr ⟨files, hpairs, congrArg some (foldl_putFile h)⟩

theorem lookup_eq_of_perm {files files' : List (String × String)} (hperm : files.Perm files')
    (h : (files.map Prod.fst).Nodup) (path : String) :
    files.lookup path = files'.lookup path := by
  induction hperm with
  | nil => rfl
  | cons f _ ih => rw [List.lookup_cons, List.lookup_cons, ih (List.nodup_cons.mp h).2]
  | swap f g r =>
    obtain ⟨p, c⟩ := f
    obtain ⟨q, c'⟩ := g
    have hne : q ≠ p := by
      rintro rfl
      exact (List.nodup_cons.mp h).1 List.mem_cons_self
    simp only [List.lookup_cons]
    by_cases hp : path = p
    · have hq : (path == q) = false := by simpa [hp] using hne.symm
      rw [hq]
    · have hp : (path == p) = false := by simpa using hp
      rw [hp]
  | trans hfirst _ ihfirst ihsecond =>
    exact (ihfirst h).trans (ihsecond ((hfirst.map _).nodup_iff.mp h))

theorem isPlain_toJson (inv : StaticInventory) : inv.toJson.IsPlain := by
  refine isPlain_record ?_
  simp only [List.forall_mem_cons]
  refine ⟨Package.restores.list.plain _, Package.restores.list.plain _, isPlain_record ?_,
    List.forall_mem_nil _⟩
  intro m hm
  obtain ⟨f, -, rfl⟩ := List.mem_map.mp hm
  exact restores_string.plain f.2

theorem fields?_toJson (inv : StaticInventory) :
    inv.toJson.fields? ["rpm_packages", "dpkg_packages", "files"] =
      some [some (.array (inv.rpm.map Package.toJson)), some (.array (inv.dpkg.map Package.toJson)),
        some (record (inv.files.map fun (path, content) => (path, .ofString content)))] := by
  have hnames : ["rpm_packages", "dpkg_packages", "files"].Nodup := by decide
  exact fields?_record hnames

theorem nodup_of_ofJson? {v : Json} {inv : StaticInventory} (h : ofJson? v = some inv) :
    (inv.files.map Prod.fst).Nodup := by
  obtain ⟨fs, -, h⟩ := Option.bind_eq_some_iff.mp h
  split at h
  · simp only [Option.bind_eq_bind, Option.bind_eq_some_iff, Option.some.injEq] at h
    obtain ⟨_, -, _, -, _, h3, rfl⟩ := h
    exact of_defaulted (P := fun files => (files.map Prod.fst).Nodup) List.nodup_nil
      nodup_of_files? h3
  · cases h

/-- The order in which the files are written does not matter. -/
theorem restored_of_perm {v : Json} {inv : StaticInventory} (h : ofJson? v = some inv)
    {files : List (String × String)} (hperm : files.Perm inv.files) :
    ofJson? (toJson { inv with files }) = some { inv with files } := by
  have hpackages := Package.restores.list.defaulted [] rfl
  have hnodup := (hperm.map Prod.fst).nodup_iff.mpr (nodup_of_ofJson? h)
  have hfiles : defaulted [] files? (some (record (files.map fun (path, content) =>
      (path, .ofString content)))) = some files := files?_record hnodup
  obtain ⟨fs, -, h⟩ := Option.bind_eq_some_iff.mp h
  split at h
  · simp only [Option.bind_eq_bind, Option.bind_eq_some_iff, Option.some.injEq] at h
    obtain ⟨_, h1, _, h2, _, -, rfl⟩ := h
    rw [ofJson?, fields?_toJson]
    simp [hpackages.restored h1, hpackages.restored h2, hfiles]
  · cases h

end StaticInventory

/-- A group around `levels` others, the innermost of which has no list of children. -/
def nestedGroups : (levels : Nat) → Json
  | 0 => .array ["criteria"]
  | levels + 1 =>
    .array ["criteria", .object [(some "AND", .object [])], .bool true, .null,
      .array [nestedGroups levels]]

def nestedNode : (levels : Nat) → Node
  | 0 => .group .and false none []
  | levels + 1 => .group .and true none [nestedNode levels]

def terseDefinition (levels : Nat) : Json :=
  .array ["d", .array ["Nested"], .array [.object [(some "OR", .null)], .bool false, .null,
    .array [nestedGroups levels]]]

def terseTests : Json :=
  record [("author", .null), ("rpminfo_tests",
    .array [.array ["t", .null, .object [(some "none satisfy", .null)], "any_exist", "o"]])]

def terseStates : Json :=
  record [("rpminfo_states", .array [record [("id", "s"), ("arch", .null),
    ("evr", record [("operation", " Less THAN"), ("value", "1")])]])]

/-- A document as an array, with a name as an object, fields that are null or absent, an unknown
key and an operation in loose spelling. -/
def terseDocument (levels : Nat) : Json :=
  .array [.array [terseDefinition levels], terseTests, .array [], terseStates]

def nestedDocument (levels : Nat) : Document where
  definitions := [{
    id := "d"
    metadata := { title := "Nested" }
    criteria := { operator := .or, children := [nestedNode levels] } }]
  tests.rpminfo := [{ id := "t", check := .noneSatisfy, existence := .anyExist, objectRef := "o" }]
  states.rpminfo := [{ id := "s", evr := some ⟨.known .lessThan, "1"⟩ }]

/-- Each group stands two containers further in. -/
theorem ofJson?_nestedGroups {room levels : Nat} (h : 2 * levels < room) (inner : Bool) :
    Node.ofJson? room inner (nestedGroups levels) = some (nestedNode levels) := by
  induction levels generalizing room inner with
  | zero =>
    obtain ⟨room, rfl⟩ := Nat.exists_eq_add_one.mpr h
    have hsplit : Node.split? inner (nestedGroups 0) = some (.group, [none, none, none, none]) := by
      cases inner <;> rfl
    simp [Node.ofJson?, hsplit, defaulted, Json.optional, nestedNode]
  | succ levels ih =>
    obtain ⟨room, rfl⟩ := Nat.exists_eq_add_one.mpr (Nat.zero_lt_of_lt h)
    have hroom : 2 * levels < room - 1 := by omega
    have hsplit : Node.split? inner (nestedGroups (levels + 1)) =
        some (.group, [some (.object [(some "AND", .object [])]), some (.bool true), some .null,
          some (.array [nestedGroups levels])]) := by
      cases inner <;> rfl
    have hname : (innerCaseName? (.object [(some "AND", .object [])])).bind Operator.ofName? =
        some .and := by decide +kernel
    simp [Node.ofJson?, hsplit, defaulted, list?, each?, ih hroom, hname, bool?, Json.optional,
      nestedNode]

theorem ofJson?_terseDefinition (levels : Nat) (h : 2 * levels < Document.childNesting)
    (hreadable : (nestedGroups levels).isReadable Document.childNesting = true) :
    Definition.ofJson? (terseDefinition levels) =
      some ⟨"d", { title := "Nested" }, { operator := .or, children := [nestedNode levels] }⟩ := by
  have hchild : Criteria.child? (nestedGroups levels) = some (nestedNode levels) := by
    rw [Criteria.child?, if_pos hreadable, ofJson?_nestedGroups h]
  have hoperator : Operator.ofJson? (.object [(some "OR", .null)]) = some .or := by decide +kernel
  simp [Definition.ofJson?, terseDefinition, Metadata.ofJson?, Criteria.ofJson?, fields?,
    fieldsOfItems?, Node.Shape.fieldNames, required, defaulted, Json.optional, list?, each?,
    string?, bool?, ofString, hoperator, hchild]

theorem ofJson?_terseDocument :
    Document.ofJson? (terseDocument 60) = some (nestedDocument 60) := by
  have hdefinition := ofJson?_terseDefinition 60 (by decide) (by decide +kernel)
  have htests : Tests.ofJson? terseTests = some (nestedDocument 60).tests := by decide +kernel
  have hobjects : Objects.ofJson? (.array []) = some {} := by decide +kernel
  have hstates : States.ofJson? terseStates = some (nestedDocument 60).states := by decide +kernel
  simp [Document.ofJson?, terseDocument, fields?, fieldsOfItems?, defaulted, list?, each?,
    hdefinition, htests, hobjects, hstates, nestedDocument]

theorem isPlain_nestedGroups (levels : Nat) : (nestedGroups levels).IsPlain := by
  induction levels with
  | zero => simp [nestedGroups, ofString]
  | succ levels ih => simp [nestedGroups, ofString, ih]

theorem ofText?_terseDocument (levels : Nat) :
    Document.ofText? (terseDocument levels).print = Document.ofJson? (terseDocument levels) := by
  have hplain : (terseDocument levels).IsPlain := by
    simp [terseDocument, terseDefinition, terseTests, terseStates, record, ofString,
      isPlain_nestedGroups]
  rw [Document.ofText?, hplain.read?_print, Option.bind_some]

/-- An inventory with two contents for one path. -/
def twoContents : String := "\x7b\"files\":\x7b\"/a\":\"1\",\"/b\":\"2\",\"/a\":\"3\"\x7d\x7d"

/-- A document is written to a text from which it is read again, in whatever notation it came, and
no definition of it has an outcome then.  So is an inventory, in whatever order its files are
written, and it gives the same answers. -/
theorem written_is_read_back (text : String) :
    (∀ d, Document.ofText? text = some d →
      Document.ofText? d.toJson.print = some d ∧
      let r := Registry.ofDocument d
      r.unevaluated.entries = d.definitions.map (fun _ => none) ∧
      ∀ inventory settings id,
        Evaluator.status? ⟨r, inventory, settings⟩ r.unevaluated id =
          (r.definition? id).map fun _ => .notEvaluated) ∧
    (∀ inv, StaticInventory.ofText? text = some inv → ∀ files, files.Perm inv.files →
      StaticInventory.ofText? (StaticInventory.toJson { inv with files }).print =
        some { inv with files } ∧
      ∀ path, StaticInventory.file? { inv with files } path = inv.file? path) := by
  constructor
  · intro d hread
    refine ⟨Document.restores.read?_print hread, List.map_const'.symm, ?_⟩
    intro inventory settings id
    simp [Registry.unevaluated, Evaluator.status?, Outcomes.status, Outcomes.statusOf]
  · intro inv hread files hperm
    obtain ⟨v, -, hv⟩ := Option.bind_eq_some_iff.mp hread
    refine ⟨?_, fun path => ?_⟩
    · rw [StaticInventory.ofText?, (StaticInventory.isPlain_toJson _).read?_print]
      exact StaticInventory.restored_of_perm hv hperm
    · have hnodup := (hperm.map Prod.fst).nodup_iff.mpr (StaticInventory.nodup_of_ofJson? hv)
      exact StaticInventory.lookup_eq_of_perm hperm hnodup path

theorem written_is_read_back_at_limit :
    (Document.ofText? (terseDocument 60).print = some (nestedDocument 60) ∧
      Document.ofText? (nestedDocument 60).toJson.print = some (nestedDocument 60) ∧
      (Registry.ofDocument (nestedDocument 60)).unevaluated.entries = [none]) ∧
    (∃ inv, StaticInventory.ofText? twoContents = some inv ∧
      inv.files = [("/a", "3"), ("/b", "2")] ∧
      StaticInventory.ofText?
          (StaticInventory.toJson { inv with files := inv.files.reverse }).print =
        some { inv with files := inv.files.reverse }) := by
  constructor
  · have hread := (ofText?_terseDocument 60).trans ofJson?_terseDocument
    obtain ⟨hback, houtcomes, -⟩ := (written_is_read_back _).1 _ hread
    exact ⟨hread, hback, houtcomes⟩
  · have hread : StaticInventory.ofText? twoContents =
        some { files := [("/a", "3"), ("/b", "2")] } := by decide +kernel
    exact ⟨_, hread, rfl, ((written_is_read_back _).2 _ hread _ (List.reverse_perm _)).1⟩

/-- One level more is refused. -/
example : (Document.ofJson? (terseDocument 61)).isSome = false := by decide +kernel

end Oval
