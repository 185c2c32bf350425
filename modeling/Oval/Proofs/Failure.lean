import Mathlib.Data.List.Forall2

/-! # Computations that fail

A pass over a list fails as its first entry that fails does, and it succeeds if every entry does.
-/
namespace Oval

/-- The error of a computation that fails. -/
def failure? {ε α : Type} : Except ε α → Option ε
  | .ok _ => none
  | .error cause => some cause

section Failures

variable {ε ε' α β : Type}

theorem failure?_eq_some_iff {x : Except ε α} {cause : ε} :
    failure? x = some cause ↔ x = .error cause := by
  cases x <;> simp [failure?]

theorem failure?_eq_none_iff {x : Except ε α} : failure? x = none ↔ ∃ a, x = .ok a := by
  cases x <;> simp [failure?]

theorem failure?_elim (cause? : Option ε) (a : α) :
    failure? (cause?.elim (.ok a) .error) = cause? := by
  cases cause? <;> rfl

theorem bind_eq_ok_iff {x : Except ε α} {f : α → Except ε β} {b : β} :
    (x >>= f) = .ok b ↔ ∃ a, x = .ok a ∧ f a = .ok b := by
  cases x <;> simp [bind, Except.bind]

theorem eq_ok_of_mapError {f : ε → ε'} {x : Except ε α} {a : α} (h : x.mapError f = .ok a) :
    x = .ok a := by
  cases x with
  | ok b =>
    cases h
    rfl
  | error cause => cases h

theorem failure?_mapM (f : α → Except ε β) (l : List α) :
    failure? (l.mapM f) = l.findSome? fun a => failure? (f a) := by
  induction l with
  | nil => rfl
  | cons a r ih =>
    rw [List.mapM_cons, List.findSome?_cons]
    cases f a with
    | error cause => rfl
    | ok b =>
      rw [← ih]
      cases r.mapM f <;> rfl

theorem exists_failure_iff {f : α → Except ε β} {l : List α} :
    (∃ cause, (l.findSome? fun a => failure? (f a)) = some cause) ↔
      ∃ a ∈ l, ∃ cause, f a = .error cause := by
  simp only [← Option.isSome_iff_exists, List.findSome?_isSome_iff]
  simp only [Option.isSome_iff_exists, failure?_eq_some_iff]

theorem mapM_eq_ok_iff {f : α → Except ε β} {l : List α} {bs : List β} :
    l.mapM f = .ok bs ↔ List.Forall₂ (fun a b => f a = .ok b) l bs := by
  constructor
  · intro h
    induction l generalizing bs with
    | nil =>
      cases h
      exact .nil
    | cons a r ih =>
      rw [List.mapM_cons] at h
      obtain ⟨b, hb, h⟩ := bind_eq_ok_iff.mp h
      obtain ⟨bs', hbs, h⟩ := bind_eq_ok_iff.mp h
      cases h
      exact .cons hb (ih hbs)
  · intro h
    induction h with
    | nil => rfl
    | cons hb _ ih =>
      rw [List.mapM_cons, hb, ih]
      rfl

theorem eq_map_of_forall₂ {f : α → β} {as : List α} {bs : List β}
    (h : List.Forall₂ (fun a b => b = f a) as bs) : bs = as.map f := by
  induction h with
  | nil => rfl
  | cons hab _ ih => rw [List.map_cons, hab, ih]

theorem exists_forall₂_iff {R : α → β → Prop} {l : List α} :
    (∃ bs, List.Forall₂ R l bs) ↔ ∀ a ∈ l, ∃ b, R a b := by
  induction l with
  | nil => simp
  | cons a r ih =>
    rw [List.forall_mem_cons, ← ih]
    simp only [List.forall₂_cons_left_iff]
    constructor
    · rintro ⟨_, b, bs, hb, hbs, -⟩
      exact ⟨⟨b, hb⟩, bs, hbs⟩
    · rintro ⟨⟨b, hb⟩, bs, hbs⟩
      exact ⟨b :: bs, b, bs, hb, hbs, rfl⟩

theorem mapM_eq_elim {f : α → Except ε β} {g : α → β} (hg : ∀ a b, f a = .ok b → b = g a)
    (l : List α) :
    l.mapM f = (l.findSome? fun a => failure? (f a)).elim (.ok (l.map g)) .error := by
  rw [← failure?_mapM]
  cases h : l.mapM f with
  | error cause => rfl
  | ok bs =>
    have hbs : bs = l.map g := eq_map_of_forall₂ ((mapM_eq_ok_iff.mp h).imp hg)
    rw [hbs]
    rfl

theorem eq_decide_of_eq_ok [DecidableEq ε] {x : Except ε Bool} {b : Bool} (h : x = .ok b) :
    b = decide (x = .ok true) := by
  rw [h]
  cases b <;> simp

end Failures

end Oval
