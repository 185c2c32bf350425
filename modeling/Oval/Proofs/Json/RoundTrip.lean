import Oval.Proofs.Json.Literal

/-! # Printed values are read back

What is printed is read to the end and no further, whatever else follows it, as long as that cannot
continue a numeral.  Every value takes a character at least, so the length of the text is depth
enough.
-/
namespace Oval.Json
open Reader

/-- A value whose numbers are natural numbers. -/
inductive IsPlain : Json → Prop
  | null : IsPlain .null
  | bool (b : Bool) : IsPlain (.bool b)
  | ofNat (n : Nat) : IsPlain (.ofNat n)
  | string (s : Option String) : IsPlain (.string s)
  | array {items : List Json} (h : ∀ v ∈ items, IsPlain v) : IsPlain (.array items)
  | object {members : List (Option String × Json)} (h : ∀ m ∈ members, IsPlain m.2) :
    IsPlain (.object members)

attribute [simp] IsPlain.null IsPlain.bool IsPlain.ofNat IsPlain.string

@[simp] theorem isPlain_array {items : List Json} :
    IsPlain (.array items) ↔ ∀ v ∈ items, IsPlain v :=
  ⟨fun | .array h => h, .array⟩

@[simp] theorem isPlain_object {members : List (Option String × Json)} :
    IsPlain (.object members) ↔ ∀ m ∈ members, IsPlain m.2 :=
  ⟨fun | .object h => h, .object⟩

/-- The text begins a value: neither a blank nor a closing bracket. -/
def Begins (s : List Char) : Prop := ∃ c r, s = c :: r ∧ isBlank c = false ∧ c ≠ ']'

theorem skipBlanks_cons {c : Char} (h : isBlank c = false) (r : List Char) :
    skipBlanks (c :: r) = c :: r :=
  List.dropWhile_cons_of_neg (by simp [h])

theorem Begins.skipBlanks_append {s : List Char} (h : Begins s) (rest : List Char) :
    skipBlanks (s ++ rest) = s ++ rest := by
  obtain ⟨c, r, rfl, hblank, -⟩ := h
  exact skipBlanks_cons hblank _

theorem Begins.length_pos {s : List Char} (h : Begins s) : 0 < s.length := by
  obtain ⟨c, r, rfl, -⟩ := h
  exact Nat.succ_pos _

theorem begins_of_isDigit {c : Char} (h : Text.isDigit c = true) (r : List Char) :
    Begins (c :: r) := by
  refine ⟨c, r, rfl, ?_, ?_⟩
  · have hbounds := Text.isDigit_iff.mp h
    simp only [isBlank, Bool.or_eq_false_iff, decide_eq_false_iff_not]
    refine ⟨⟨⟨?_, ?_⟩, ?_⟩, ?_⟩ <;> (rintro rfl; revert hbounds; decide)
  · rintro rfl
    cases h

/-- The value begins its printed text, and with depth for that text it is read back up to whatever
ends it. -/
structure Reads (v : Json) : Prop where
  begins : Begins (Printer.value v)
  value?_eq : ∀ depth rest, Ends rest → (Printer.value v).length ≤ depth →
    value? depth (Printer.value v ++ rest) = some (v, rest)

theorem begins_maybeString (s : Option String) : Begins (Printer.maybeString s) := by
  cases s <;> exact ⟨_, _, rfl, by decide, by decide⟩

theorem reads_null : Reads .null where
  begins := ⟨_, _, rfl, by decide, by decide⟩
  value?_eq
  | 0, _, _, hdepth => absurd hdepth (by decide)
  | _ + 1, _, _, _ => rfl

theorem reads_bool (b : Bool) : Reads (.bool b) where
  begins := by cases b <;> exact ⟨_, _, rfl, by decide, by decide⟩
  value?_eq
  | 0, _, _, hdepth => absurd hdepth (by cases b <;> decide)
  | _ + 1, _, _, _ => by cases b <;> rfl

theorem reads_string (s : Option String) : Reads (.string s) := by
  obtain ⟨t, hprint, hread⟩ := string?_maybeString s
  refine ⟨begins_maybeString s, ?_⟩
  intro depth rest _ hdepth
  rw [Printer.value, hprint] at hdepth ⊢
  cases depth with
  | zero => exact absurd hdepth (Nat.not_succ_le_zero _)
  | succ depth =>
    rw [List.cons_append, value?, hread]
    rfl

theorem value_ofNat (n : Nat) : Printer.value (.ofNat n) = Nat.toDigits 10 n := by
  simp [ofNat, Printer.value, Printer.number]

theorem reads_ofNat (n : Nat) : Reads (.ofNat n) := by
  obtain ⟨c, ds, hds⟩ := List.exists_cons_of_ne_nil (Nat.toDigits_ne_nil (n := n) (b := 10))
  have hc : Text.isDigit c = true :=
    isDigit_of_mem_toDigits (by rw [hds]; exact List.mem_cons_self)
  have hvalue := value_ofNat n
  constructor
  · rw [hvalue, hds]
    exact begins_of_isDigit hc ds
  · intro depth rest hrest hdepth
    rw [hvalue] at hdepth ⊢
    cases depth with
    | zero =>
      rw [hds] at hdepth
      exact absurd hdepth (Nat.not_succ_le_zero _)
    | succ depth =>
      have hother (x : Char) (hx : Text.isDigit x = false) (r : List Char) :
          Nat.toDigits 10 n ++ rest ≠ x :: r := by
        rw [hds]
        rintro ⟨⟩
        rw [hc] at hx
        cases hx
      rw [value?, number?_toDigits n hrest]
      · rfl
      all_goals exact fun r h => hother _ (by decide) r h

theorem itemsFrom_true_cons (v : Json) (r : List Json) :
    Printer.itemsFrom true (v :: r) = Printer.value v ++ Printer.itemsFrom false r := by
  simp [Printer.itemsFrom]

theorem itemsFrom_false_cons (v : Json) (r : List Json) :
    Printer.itemsFrom false (v :: r) = ',' :: Printer.itemsFrom true (v :: r) := by
  simp [Printer.itemsFrom]

theorem ends_itemsFrom (r : List Json) (rest : List Char) :
    Ends (Printer.itemsFrom false r ++ rest) := by
  cases r with
  | nil => exact ends_cons (by decide) rest
  | cons v r =>
    rw [itemsFrom_false_cons]
    exact ends_cons (by decide) _

theorem skipBlanks_itemsFrom {v : Json} (h : Reads v) (r : List Json) (rest : List Char) :
    skipBlanks (Printer.itemsFrom true (v :: r) ++ rest) =
      Printer.itemsFrom true (v :: r) ++ rest := by
  rw [itemsFrom_true_cons, List.append_assoc, h.begins.skipBlanks_append]

theorem items?_itemsFrom {v : Json} {r : List Json} (h : ∀ w ∈ v :: r, Reads w) (depth : Nat)
    (rest : List Char) (hdepth : (Printer.itemsFrom true (v :: r)).length ≤ depth) :
    items? depth (Printer.itemsFrom true (v :: r) ++ rest) = some (v :: r, rest) := by
  induction r generalizing v depth with
  | nil =>
    have hv := h v List.mem_cons_self
    have hpos := hv.begins.length_pos
    rw [itemsFrom_true_cons, List.length_append] at hdepth
    have hclose : (Printer.itemsFrom false []).length = 1 := rfl
    cases depth with
    | zero => omega
    | succ depth =>
      rw [itemsFrom_true_cons, List.append_assoc, items?,
        hv.value?_eq depth _ (ends_itemsFrom [] rest) (by omega)]
      rfl
  | cons w r ih =>
    obtain ⟨hv, hrest⟩ := List.forall_mem_cons.mp h
    have hpos := hv.begins.length_pos
    rw [itemsFrom_true_cons, List.length_append, itemsFrom_false_cons, List.length_cons] at hdepth
    cases depth with
    | zero => omega
    | succ depth =>
      have hmore := ih hrest depth (by omega)
      rw [itemsFrom_true_cons, List.append_assoc, items?,
        hv.value?_eq depth _ (ends_itemsFrom (w :: r) rest) (by omega), itemsFrom_false_cons,
        List.cons_append]
      simp [skipBlanks_cons (c := ',') (by decide),
        skipBlanks_itemsFrom (hrest w List.mem_cons_self), hmore]

theorem reads_array {items : List Json} (h : ∀ v ∈ items, Reads v) : Reads (.array items) := by
  refine ⟨⟨_, _, rfl, by decide, by decide⟩, ?_⟩
  intro depth rest _ hdepth
  rw [Printer.value, List.length_cons] at hdepth
  cases depth with
  | zero => omega
  | succ depth =>
    rw [Printer.value, List.cons_append, value?]
    cases items with
    | nil => rfl
    | cons v r =>
      have hv := h v List.mem_cons_self
      rw [skipBlanks_itemsFrom hv]
      split
      · rename_i hclose
        obtain ⟨c, t, hc, -, hne⟩ := hv.begins
        rw [itemsFrom_true_cons, hc, List.cons_append, List.cons_append, List.cons.injEq] at hclose
        exact absurd hclose.1 hne
      · rw [items?_itemsFrom h depth rest (by omega)]
        rfl

theorem membersFrom_true_cons (k : Option String) (v : Json) (r : List (Option String × Json)) :
    Printer.membersFrom true ((k, v) :: r) =
      Printer.maybeString k ++ ':' :: (Printer.value v ++ Printer.membersFrom false r) := by
  simp [Printer.membersFrom]

theorem membersFrom_false_cons (m : Option String × Json) (r : List (Option String × Json)) :
    Printer.membersFrom false (m :: r) = ',' :: Printer.membersFrom true (m :: r) := by
  simp [Printer.membersFrom]

theorem ends_membersFrom (r : List (Option String × Json)) (rest : List Char) :
    Ends (Printer.membersFrom false r ++ rest) := by
  cases r with
  | nil => exact ends_cons (by decide) rest
  | cons m r =>
    rw [membersFrom_false_cons]
    exact ends_cons (by decide) _

theorem skipBlanks_membersFrom (m : Option String × Json) (r : List (Option String × Json))
    (rest : List Char) :
    skipBlanks (Printer.membersFrom true (m :: r) ++ rest) =
      Printer.membersFrom true (m :: r) ++ rest := by
  rw [membersFrom_true_cons, List.append_assoc, (begins_maybeString m.1).skipBlanks_append]

theorem members?_succ {k : Option String} {v : Json} (h : Reads v)
    (r : List (Option String × Json)) {depth : Nat} (rest : List Char)
    (hdepth : (Printer.value v).length ≤ depth) :
    members? (depth + 1) (Printer.membersFrom true ((k, v) :: r) ++ rest) =
      match skipBlanks (Printer.membersFrom false r ++ rest) with
      | ',' :: s => (members? depth (skipBlanks s)).map fun (ms, rest) => ((k, v) :: ms, rest)
      | '}' :: rest => some ([(k, v)], rest)
      | _ => none := by
  obtain ⟨t, hprint, hread⟩ := string?_maybeString k
  have hvalue := h.value?_eq depth _ (ends_membersFrom r rest) hdepth
  rw [membersFrom_true_cons, hprint, List.cons_append, List.cons_append, List.append_assoc,
    List.cons_append, List.append_assoc, members?, hread]
  simp only [Option.bind_eq_bind, Option.bind_some, skipBlanks_cons (c := ':') (by decide),
    h.begins.skipBlanks_append, hvalue, Option.map_eq_bind]
  rfl

theorem members?_membersFrom {m : Option String × Json} {r : List (Option String × Json)}
    (h : ∀ m' ∈ m :: r, Reads m'.2) (depth : Nat) (rest : List Char)
    (hdepth : (Printer.membersFrom true (m :: r)).length ≤ depth) :
    members? depth (Printer.membersFrom true (m :: r) ++ rest) = some (m :: r, rest) := by
  induction r generalizing m depth with
  | nil =>
    rw [membersFrom_true_cons, List.length_append, List.length_cons, List.length_append] at hdepth
    cases depth with
    | zero => omega
    | succ depth =>
      rw [members?_succ (h m List.mem_cons_self) [] rest (by omega)]
      rfl
  | cons w r ih =>
    obtain ⟨hv, hrest⟩ := List.forall_mem_cons.mp h
    rw [membersFrom_true_cons, List.length_append, List.length_cons, List.length_append,
      membersFrom_false_cons, List.length_cons] at hdepth
    cases depth with
    | zero => omega
    | succ depth =>
      rw [members?_succ hv (w :: r) rest (by omega), membersFrom_false_cons, List.cons_append,
        skipBlanks_cons (by decide)]
      simp only [skipBlanks_membersFrom, ih hrest depth (by omega)]
      rfl

theorem reads_object {members : List (Option String × Json)} (h : ∀ m ∈ members, Reads m.2) :
    Reads (.object members) := by
  refine ⟨⟨_, _, rfl, by decide, by decide⟩, ?_⟩
  intro depth rest _ hdepth
  rw [Printer.value, List.length_cons] at hdepth
  cases depth with
  | zero => omega
  | succ depth =>
    rw [Printer.value, List.cons_append, value?]
    cases members with
    | nil => rfl
    | cons m r =>
      rw [skipBlanks_membersFrom]
      split
      · rename_i hclose
        obtain ⟨t, hprint, -⟩ := string?_maybeString m.1
        rw [membersFrom_true_cons, hprint] at hclose
        cases hclose
      · rw [members?_membersFrom h depth rest (by omega)]
        rfl

theorem IsPlain.reads {v : Json} (h : v.IsPlain) : Reads v := by
  induction h with
  | null => exact reads_null
  | bool b => exact reads_bool b
  | ofNat n => exact reads_ofNat n
  | string s => exact reads_string s
  | array _ ih => exact reads_array ih
  | object _ ih => exact reads_object ih

/-- The printed text of a plain value reads as the value. -/
theorem IsPlain.read?_print {v : Json} (h : v.IsPlain) : read? v.print = some v := by
  have hskip := h.reads.begins.skipBlanks_append []
  rw [List.append_nil] at hskip
  have hvalue := h.reads.value?_eq ((Printer.value v).length + 1) [] ends_nil (Nat.le_succ _)
  rw [List.append_nil] at hvalue
  rw [read?, print, String.toList_ofList, hskip, hvalue]
  rfl

end Oval.Json
