import Oval.Json.Record
import Oval.Proofs.Json.RoundTrip

/-! # Records are read back

A reader accepts more texts than a writer writes: another notation, absent fields, unknown keys.
What is asked of the two is that a value once read is written in a form that reads as that value.
The law is stated for values and for the fields of a record, and kept by each way to build a reader.
-/
namespace Oval.Json

variable {α β : Type}

/-- Values that `read?` returned are written in a form that reads as the same value. -/
structure Restores (read? : Json → Option α) (write : α → Json) : Prop where
  plain : ∀ a, (write a).IsPlain
  restored : ∀ {v a}, read? v = some a → read? (write a) = some a

/-- The same for a field, which may be absent. -/
structure RestoresField (read? : Option Json → Option α) (write : α → Option Json) : Prop where
  plain : ∀ a, ∀ v ∈ write a, IsPlain v
  restored : ∀ {o a}, read? o = some a → read? (write a) = some a

theorem mem_of_each? {f : α → Option β} {as : List α} {bs : List β} (h : each? f as = some bs)
    {b : β} (hb : b ∈ bs) : ∃ a ∈ as, f a = some b := by
  induction as generalizing bs with
  | nil =>
    obtain rfl := Option.some.inj h
    cases hb
  | cons a r ih =>
    simp only [each?, Option.bind_eq_some_iff, Option.map_eq_some_iff] at h
    obtain ⟨b', hb', cs, hcs, rfl⟩ := h
    rcases List.mem_cons.mp hb with rfl | hmem
    · exact ⟨a, List.mem_cons_self, hb'⟩
    · obtain ⟨a', ha', hf⟩ := ih hcs hmem
      exact ⟨a', List.mem_cons_of_mem _ ha', hf⟩

theorem each?_map {γ : Type} {f : α → Option β} {g : γ → α} {h : γ → β} {cs : List γ}
    (hf : ∀ c ∈ cs, f (g c) = some (h c)) : each? f (cs.map g) = some (cs.map h) := by
  induction cs with
  | nil => rfl
  | cons c r ih =>
    obtain ⟨hc, hr⟩ := List.forall_mem_cons.mp hf
    simp [each?, hc, ih hr]

theorem exists_of_mem_list? {f : Json → Option α} {v : Json} {as : List α}
    (h : list? f v = some as) {a : α} (ha : a ∈ as) : ∃ v, f v = some a := by
  cases v with
  | array items =>
    obtain ⟨v, -, hv⟩ := mem_of_each? h ha
    exact ⟨v, hv⟩
  | _ => cases h

theorem list?_map {f : Json → Option α} {w : α → Json} {as : List α}
    (h : ∀ a ∈ as, f (w a) = some a) : list? f (.array (as.map w)) = some as := by
  have hmap := each?_map (h := id) h
  rwa [List.map_id] at hmap

theorem of_defaulted {f : Json → Option α} {P : α → Prop} {default : α} (hdefault : P default)
    (hread : ∀ {v a}, f v = some a → P a) {o : Option Json} {a : α}
    (h : defaulted default f o = some a) : P a := by
  cases o with
  | none =>
    obtain rfl := Option.some.inj h
    exact hdefault
  | some v => exact hread h

namespace Restores

variable {f : Json → Option α} {w : α → Json}

theorem list (h : Restores f w) : Restores (list? f) fun as => .array (as.map w) where
  plain as := .array fun v hv => by
    obtain ⟨a, -, rfl⟩ := List.mem_map.mp hv
    exact h.plain a
  restored {v as} hread := by
    refine list?_map fun a ha => ?_
    obtain ⟨v, hv⟩ := exists_of_mem_list? hread ha
    exact h.restored hv

theorem required (h : Restores f w) : RestoresField (required f) fun a => some (w a) where
  plain a v hv := by
    obtain rfl := Option.some.inj hv
    exact h.plain a
  restored {o a} hread := by
    cases o with
    | none => cases hread
    | some v => exact h.restored hread

theorem defaulted (h : Restores f w) (default : α) (hdefault : f (w default) = some default) :
    RestoresField (defaulted default f) fun a => some (w a) where
  plain a v hv := by
    obtain rfl := Option.some.inj hv
    exact h.plain a
  restored {o a} hread := by
    cases o with
    | none =>
      obtain rfl := Option.some.inj hread
      exact hdefault
    | some v => exact h.restored hread

theorem ne_null (h : Restores f w) (hnull : f .null = none) {v : Json} {a : α}
    (hread : f v = some a) : w a ≠ .null := by
  intro hwrite
  have hrestored := h.restored hread
  rw [hwrite, hnull] at hrestored
  cases hrestored

theorem optional_some (h : Restores f w) (hnull : f .null = none) {v : Json} {a : α}
    (hread : f v = some a) : optional f (some (w a)) = some (some a) := by
  have hne := h.ne_null hnull hread
  unfold Json.optional
  split
  · rename_i heq
    exact absurd (Option.some.inj heq) hne
  · rename_i heq
    obtain rfl := Option.some.inj heq
    rw [h.restored hread]
    rfl
  · rename_i heq
    cases heq

theorem optional (h : Restores f w) (hnull : f .null = none) :
    RestoresField (optional f) fun o => o.map w where
  plain o v hv := by
    obtain ⟨a, -, rfl⟩ := Option.map_eq_some_iff.mp hv
    exact h.plain a
  restored {o x} hread := by
    cases x with
    | none => rfl
    | some a =>
      unfold Json.optional at hread
      split at hread
      · cases hread
      · obtain ⟨a', ha', heq⟩ := Option.map_eq_some_iff.mp hread
        obtain rfl := Option.some.inj heq
        exact h.optional_some hnull ha'
      · cases hread

end Restores

theorem restores_string : Restores string? ofString where
  plain s := .string (some s)
  restored _ := rfl

theorem restores_bool : Restores bool? .bool where
  plain b := .bool b
  restored _ := rfl

theorem natural?_ofNat {bound n : Nat} (h : n < bound) : natural? bound (.ofNat n) = some n := by
  have hvalue : Text.decimalValue (Nat.toDigits 10 n) = n := Nat.ofDigitChars_ten_toDigits
  simp [natural?, ofNat, Number.natural?, hvalue, h]

theorem restores_word : Restores word? ofNat where
  plain n := .ofNat n
  restored {v n} hread := by
    cases v with
    | number x =>
      refine natural?_ofNat ?_
      simp only [word?, natural?, Number.natural?] at hread
      split at hread
      · cases hread
      · split at hread
        · rename_i hlt
          exact Option.some.inj hread ▸ hlt
        · cases hread
    | _ => cases hread

theorem restores_oneOf [BEq α] {name? : Json → Option String}
    (hname : ∀ s, name? (ofString s) = some s) (values : List α) (text : α → String) :
    Restores (fun v => (name? v).bind (oneOf? values text)) fun a => ofString (text a) where
  plain a := .string (some (text a))
  restored {v a} hread := by
    obtain ⟨s, -, hs⟩ := Option.bind_eq_some_iff.mp hread
    have htext : text a = s := by simpa using List.find?_some hs
    rw [hname, Option.bind_some, htext, hs]

def written (fields : List (String × Option Json)) : List (Option String × Json) :=
  fields.filterMap fun (k, o) => o.map fun v => (some k, v)

theorem present_eq (fields : List (String × Option Json)) :
    present fields = .object (written fields) := by
  simp only [present, record, written, List.map_filterMap, Option.map_map]
  rfl

theorem record_eq (members : List (String × Json)) :
    record members = present (members.map fun (k, v) => (k, some v)) := by
  rw [present, List.filterMap_map]
  exact congrArg record List.filterMap_some.symm

theorem mem_written {fields : List (String × Option Json)} {m : Option String × Json} :
    m ∈ written fields ↔ ∃ k, (k, some m.2) ∈ fields ∧ m.1 = some k := by
  simp only [written, List.mem_filterMap, Prod.exists, Option.map_eq_some_iff]
  constructor
  · rintro ⟨k, o, hmem, v, rfl, rfl⟩
    exact ⟨k, hmem, rfl⟩
  · rintro ⟨k, hmem, hk⟩
    exact ⟨k, some m.2, hmem, m.2, rfl, by rw [← hk]⟩

theorem isPlain_present {fields : List (String × Option Json)}
    (h : ∀ f ∈ fields, ∀ v ∈ f.2, IsPlain v) : (present fields).IsPlain := by
  rw [present_eq]
  refine .object fun m hm => ?_
  obtain ⟨k, hmem, -⟩ := mem_written.mp hm
  exact h _ hmem m.2 rfl

theorem isPlain_record {members : List (String × Json)} (h : ∀ m ∈ members, m.2.IsPlain) :
    (record members).IsPlain := by
  refine .object fun m hm => ?_
  obtain ⟨m, hmem, rfl⟩ := List.mem_map.mp hm
  exact h m hmem

theorem valuesAt_written_cons (k : String) (o : Option Json) (r : List (String × Option Json))
    (key : String) :
    valuesAt (written ((k, o) :: r)) key =
      (if k = key then o.toList else []) ++ valuesAt (written r) key := by
  cases o <;> by_cases h : k = key <;> simp [written, valuesAt, h]

theorem valuesAt_written_eq_nil {fields : List (String × Option Json)} {key : String}
    (h : key ∉ fields.map Prod.fst) : valuesAt (written fields) key = [] := by
  induction fields with
  | nil => rfl
  | cons f r ih =>
    rw [List.map_cons, List.mem_cons, not_or] at h
    rw [valuesAt_written_cons, if_neg (Ne.symm h.1), ih h.2, List.append_nil]

theorem valuesAt_written {fields : List (String × Option Json)}
    (hnodup : (fields.map Prod.fst).Nodup) {key : String} {o : Option Json}
    (hmem : (key, o) ∈ fields) : valuesAt (written fields) key = o.toList := by
  induction fields with
  | nil => cases hmem
  | cons f r ih =>
    obtain ⟨hnot, hr⟩ := List.nodup_cons.mp hnodup
    rw [valuesAt_written_cons]
    rcases List.mem_cons.mp hmem with rfl | hmem
    · rw [if_pos rfl, valuesAt_written_eq_nil hnot, List.append_nil]
    · have hkey : key ∈ r.map Prod.fst := List.mem_map.mpr ⟨_, hmem, rfl⟩
      have hne : f.1 ≠ key := fun heq => hnot (heq ▸ hkey)
      rw [if_neg hne, List.nil_append, ih hr hmem]

theorem memberAt?_written {fields : List (String × Option Json)}
    (hnodup : (fields.map Prod.fst).Nodup) {key : String} {o : Option Json}
    (hmem : (key, o) ∈ fields) : memberAt? (written fields) key = some o := by
  rw [memberAt?, valuesAt_written hnodup hmem]
  cases o <;> rfl

theorem fieldsOfMembers?_written {fields : List (String × Option Json)}
    (hnodup : (fields.map Prod.fst).Nodup) :
    fieldsOfMembers? (fields.map Prod.fst) (written fields) = some (fields.map Prod.snd) := by
  have hkeys : (written fields).all (·.1.isSome) = true := by
    refine List.all_eq_true.mpr fun m hm => ?_
    obtain ⟨k, -, hk⟩ := mem_written.mp hm
    rw [hk]
    rfl
  rw [fieldsOfMembers?, if_pos hkeys]
  exact each?_map fun f hf => memberAt?_written hnodup hf

theorem fields?_present {fields : List (String × Option Json)}
    (hnodup : (fields.map Prod.fst).Nodup) :
    (present fields).fields? (fields.map Prod.fst) = some (fields.map Prod.snd) := by
  rw [present_eq]
  exact fieldsOfMembers?_written hnodup

theorem fields?_record {members : List (String × Json)} (hnodup : (members.map Prod.fst).Nodup) :
    (record members).fields? (members.map Prod.fst) = some (members.map fun m => some m.2) := by
  have hkeys : (members.map fun (k, v) => (k, some v)).map Prod.fst = members.map Prod.fst := by
    rw [List.map_map]
    rfl
  have hfields := fields?_present (hkeys ▸ hnodup)
  rw [hkeys, List.map_map] at hfields
  rw [record_eq]
  exact hfields

/-- A record is read back if what is built from its fields is built from them again. -/
theorem restores_of_fields? {names : List String} {build : List (Option Json) → Option α}
    {write : α → Json} {values : α → List (Option Json)} (hplain : ∀ a, (write a).IsPlain)
    (hfields : ∀ a, (write a).fields? names = some (values a))
    (hbuild : ∀ {fs a}, build fs = some a → build (values a) = some a) :
    Restores (fun v => (v.fields? names).bind build) write where
  plain := hplain
  restored {v a} hread := by
    obtain ⟨fs, -, hfs⟩ := Option.bind_eq_some_iff.mp hread
    rw [hfields]
    exact hbuild hfs

theorem restores_present {names : List String} {build : List (Option Json) → Option α}
    {fields : α → List (String × Option Json)} (hnodup : names.Nodup)
    (hnames : ∀ a, (fields a).map Prod.fst = names)
    (hplain : ∀ a, ∀ f ∈ fields a, ∀ v ∈ f.2, IsPlain v)
    (hbuild : ∀ {fs a}, build fs = some a → build ((fields a).map Prod.snd) = some a) :
    Restores (fun v => (v.fields? names).bind build) fun a => present (fields a) := by
  refine restores_of_fields? (fun a => isPlain_present (hplain a)) (fun a => ?_) hbuild
  have hfields := fields?_present ((hnames a).symm ▸ hnodup)
  rwa [hnames] at hfields

theorem restores_record {names : List String} {build : List (Option Json) → Option α}
    {members : α → List (String × Json)} (hnodup : names.Nodup)
    (hnames : ∀ a, (members a).map Prod.fst = names)
    (hplain : ∀ a, ∀ m ∈ members a, m.2.IsPlain)
    (hbuild : ∀ {fs a}, build fs = some a → build ((members a).map fun m => some m.2) = some a) :
    Restores (fun v => (v.fields? names).bind build) fun a => record (members a) := by
  refine restores_of_fields? (fun a => isPlain_record (hplain a)) (fun a => ?_) hbuild
  have hfields := fields?_record ((hnames a).symm ▸ hnodup)
  rwa [hnames] at hfields

/-- What is read from a text is written to a text from which it is read again. -/
theorem Restores.read?_print {f : Json → Option α} {w : α → Json} (h : Restores f w)
    {text : String} {a : α} (hread : (read? text).bind f = some a) :
    (read? (w a).print).bind f = some a := by
  obtain ⟨v, -, hv⟩ := Option.bind_eq_some_iff.mp hread
  rw [(h.plain a).read?_print]
  exact h.restored hv

end Oval.Json
