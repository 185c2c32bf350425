import Oval.Document.Json
import Oval.Proofs.Json.Record

/-! # Criteria trees are read back

A level of a tree takes two containers, the child and its list of children.  The list may be left
out in what is read, but it is always written.  The room for children is even, so that there is
room for the list wherever there is room for the child.
-/
namespace Oval

open Json

theorem Operator.restores : Restores Operator.ofJson? fun o => ofString o.text :=
  restores_oneOf (fun _ => rfl) Operator.all Operator.text

namespace Node

/-- The tree has at most `k` levels. -/
inductive Within : Nat → Node → Prop
  | group {k : Nat} {children : List Node} (operator : Operator) (negate : Bool)
    (comment : Option String) (h : ∀ c ∈ children, Within k c) :
    Within (k + 1) (.group operator negate comment children)
  | criterion {k : Nat} (testRef : String) (negate : Bool) (comment : Option String) :
    Within (k + 1) (.criterion testRef negate comment)
  | extend {k : Nat} (definitionRef : String) (negate : Bool) (comment : Option String) :
    Within (k + 1) (.extend definitionRef negate comment)

/-- A tree that is read has no more levels than there is room for. -/
theorem within_of_ofJson? {k : Nat} {inner : Bool} {v : Json} {n : Node}
    (h : ofJson? (2 * k) inner v = some n) : Within k n := by
  induction k generalizing inner v n with
  | zero =>
    rw [Nat.mul_zero, ofJson?] at h
    cases h
  | succ k ih =>
    rw [Nat.mul_succ, ofJson?] at h
    obtain ⟨⟨shape, fs⟩, -, h⟩ := Option.bind_eq_some_iff.mp h
    split at h
    · simp only [Option.bind_eq_bind, Option.bind_eq_some_iff, Option.some.injEq] at h
      obtain ⟨operator, -, negate, -, comment, -, children, hchildren, rfl⟩ := h
      refine .group operator negate comment ?_
      refine of_defaulted (P := fun cs => ∀ c ∈ cs, Within k c) (List.forall_mem_nil _) ?_ hchildren
      intro v cs hread c hc
      obtain ⟨w, hw⟩ := exists_of_mem_list? hread hc
      exact ih hw
    · simp only [Option.bind_eq_bind, Option.bind_eq_some_iff, Option.some.injEq] at h
      obtain ⟨testRef, -, negate, -, comment, -, rfl⟩ := h
      exact .criterion testRef negate comment
    · simp only [Option.bind_eq_bind, Option.bind_eq_some_iff, Option.some.injEq] at h
      obtain ⟨definitionRef, -, negate, -, comment, -, rfl⟩ := h
      exact .extend definitionRef negate comment
    · cases h

theorem filter_written {key : String} {fields : List (String × Option Json)}
    (h : key ∉ fields.map Prod.fst) (v : Json) :
    (written ((key, some v) :: fields)).filter (·.1 ≠ some key) = written fields := by
  refine (List.filter_cons_of_neg (by simp)).trans (List.filter_eq_self.mpr fun m hm => ?_)
  obtain ⟨k, hmem, hk⟩ := mem_written.mp hm
  have hne : k ≠ key := by
    rintro rfl
    exact h (List.mem_map.mpr ⟨_, hmem, rfl⟩)
  simpa [hk] using hne

theorem split?_present (inner : Bool) (shape : Shape) {fields : List (String × Option Json)}
    (hnames : fields.map Prod.fst = shape.fieldNames) :
    split? inner (present (("type", some (ofString shape.text)) :: fields)) =
      some (shape, fields.map Prod.snd) := by
  have hnodup :
      ((("type", some (ofString shape.text)) :: fields).map Prod.fst).Nodup := by
    rw [List.map_cons, hnames]
    cases shape <;> decide
  obtain ⟨htype, hrest⟩ := List.nodup_cons.mp hnodup
  have htag : memberAt? (written (("type", some (ofString shape.text)) :: fields)) "type" =
      some (some (ofString shape.text)) :=
    memberAt?_written hnodup List.mem_cons_self
  have hshape : Shape.ofTag? inner (ofString shape.text) = some shape := by
    cases shape <;> rfl
  have hfields := fieldsOfMembers?_written hrest
  rw [hnames] at hfields
  rw [present_eq, split?, htag]
  simp only [Option.bind_eq_bind, Option.bind_some, hshape, filter_written htype, hfields]

theorem toJsonAll_eq_map (ns : List Node) : toJsonAll ns = ns.map toJson := by
  induction ns with
  | nil => rfl
  | cons n r ih => rw [toJsonAll, ih, List.map_cons]

theorem isPlain_leaf (shape : Shape) (key ref : String) (negate : Bool) (comment : Option String) :
    (present [("type", some shape.text), (key, some ref), ("negate", some (.bool negate)),
      ("comment", comment.map ofString)]).IsPlain := by
  refine isPlain_present ?_
  simp only [List.forall_mem_cons]
  exact ⟨restores_string.required.plain _, restores_string.required.plain _,
    restores_bool.required.plain _, (restores_string.optional rfl).plain _, List.forall_mem_nil _⟩

mutual
theorem isPlain_toJson : ∀ n : Node, (toJson n).IsPlain
  | group operator negate comment children => by
    rw [toJson]
    refine isPlain_present ?_
    simp only [List.forall_mem_cons]
    refine ⟨restores_string.required.plain _, restores_string.required.plain _,
      restores_bool.required.plain _, (restores_string.optional rfl).plain _, ?_,
      List.forall_mem_nil _⟩
    rintro _ ⟨⟩
    exact .array (isPlain_toJsonAll children)
  | criterion testRef negate comment => isPlain_leaf .criterion "test_ref" testRef negate comment
  | extend definitionRef negate comment =>
    isPlain_leaf .extend "definition_ref" definitionRef negate comment

theorem isPlain_toJsonAll : ∀ ns : List Node, ∀ v ∈ toJsonAll ns, IsPlain v
  | [] => List.forall_mem_nil _
  | n :: r => by
    rw [toJsonAll, List.forall_mem_cons]
    exact ⟨isPlain_toJson n, isPlain_toJsonAll r⟩
end

/-- With room for its levels a tree is read back, wherever it stands. -/
theorem Within.ofJson?_toJson {k : Nat} {n : Node} (h : Within k n) (inner : Bool) :
    ofJson? (2 * k) inner (toJson n) = some n := by
  induction h generalizing inner with
  | @group k children operator negate comment h ih =>
    have hchildren :
        list? (ofJson? (2 * k) true) (.array (children.map toJson)) = some children :=
      list?_map fun c hc => ih c hc true
    have hoperator : (ofString operator.text).innerCaseName?.bind Operator.ofName? =
        some operator := by
      cases operator <;> rfl
    have hcomment : optional string? (comment.map ofString) = some comment := by
      cases comment <;> rfl
    rw [toJson, Nat.mul_succ, ofJson?, split?_present inner .group rfl, toJsonAll_eq_map]
    simp [defaulted, bool?, hoperator, hcomment, hchildren]
  | criterion testRef negate comment =>
    rw [toJson, Nat.mul_succ, ofJson?, split?_present inner .criterion rfl]
    cases comment <;> rfl
  | extend definitionRef negate comment =>
    rw [toJson, Nat.mul_succ, ofJson?, split?_present inner .extend rfl]
    cases comment <;> rfl

theorem areReadable_iff {room : Nat} {vs : List Json} :
    areReadable room vs = true ↔ ∀ v ∈ vs, v.isReadable room = true := by
  induction vs with
  | nil => simp [areReadable]
  | cons v r ih => simp [areReadable, ih]

theorem membersReadable_iff {room : Nat} {members : List (Option String × Json)} :
    membersReadable room members = true ↔
      ∀ m ∈ members, m.1.isSome = true ∧ m.2.isReadable room = true := by
  induction members with
  | nil => simp [membersReadable]
  | cons m r ih => simp [membersReadable, ih]

theorem isReadable_present {room : Nat} {fields : List (String × Option Json)}
    (h : ∀ f ∈ fields, ∀ v ∈ f.2, v.isReadable room = true) :
    (present fields).isReadable (room + 1) = true := by
  rw [present_eq, isReadable, membersReadable_iff]
  intro m hm
  obtain ⟨k, hmem, hk⟩ := mem_written.mp hm
  exact ⟨by rw [hk]; rfl, h _ hmem m.2 rfl⟩

theorem isReadable_leaf (room : Nat) (shape : Shape) (key ref : String) (negate : Bool)
    (comment : Option String) :
    (present [("type", some shape.text), (key, some ref), ("negate", some (.bool negate)),
      ("comment", comment.map ofString)]).isReadable (room + 1) = true := by
  refine isReadable_present ?_
  simp [isReadable, ofString]

/-- Leaves take one container, and a group takes one more than its list of children. -/
theorem Within.isReadable_toJson {k : Nat} {n : Node} (h : Within k n) :
    (toJson n).isReadable (2 * k) = true := by
  induction h with
  | @group k children operator negate comment h ih =>
    rw [toJson, Nat.mul_succ, toJsonAll_eq_map]
    refine isReadable_present ?_
    have hchildren : areReadable (2 * k) (children.map toJson) = true := by
      rw [areReadable_iff]
      intro v hv
      obtain ⟨c, hc, rfl⟩ := List.mem_map.mp hv
      exact ih c hc
    simp [hchildren, isReadable, ofString]
  | criterion testRef negate comment =>
    exact isReadable_leaf _ .criterion "test_ref" testRef negate comment
  | extend definitionRef negate comment =>
    exact isReadable_leaf _ .extend "definition_ref" definitionRef negate comment

end Node

namespace Criteria

open Node

theorem restores_child : Restores child? Node.toJson where
  plain := isPlain_toJson
  restored {v n} hread := by
    obtain ⟨-, hread⟩ := Option.ite_none_right_eq_some.mp hread
    have hwithin : n.Within 61 := within_of_ofJson? hread
    have hreadable : n.toJson.isReadable Document.childNesting = true :=
      hwithin.isReadable_toJson
    rw [child?, if_pos hreadable]
    exact hwithin.ofJson?_toJson false

theorem restores : Restores Criteria.ofJson? Criteria.toJson := by
  have hoperator := Operator.restores.defaulted .and rfl
  have hnegate := restores_bool.defaulted false rfl
  have hcomment := restores_string.optional rfl
  have hchildren := restores_child.list.defaulted [] rfl
  have hwrite : Criteria.toJson = fun c => present [("operator", some (ofString c.operator.text)),
      ("negate", some (.bool c.negate)), ("comment", c.comment.map ofString),
      ("children", some (.array (c.children.map Node.toJson)))] := by
    funext c
    rw [toJson, toJsonAll_eq_map]
  rw [hwrite]
  refine restores_present (by decide) (fun _ => rfl) ?_ ?_
  · intro c
    simp only [List.forall_mem_cons]
    exact ⟨hoperator.plain _, hnegate.plain _, hcomment.plain _, hchildren.plain _,
      List.forall_mem_nil _⟩
  · intro fs c h
    split at h
    · simp only [Option.bind_eq_bind, Option.bind_eq_some_iff, Option.some.injEq] at h
      obtain ⟨_, h1, _, h2, _, h3, _, h4, rfl⟩ := h
      simp [hoperator.restored h1, hnegate.restored h2, hcomment.restored h3,
        hchildren.restored h4]
    · cases h

end Criteria
end Oval
