import Oval.Proofs.Assessment.Value

/-! # The effects of assessing a test

Comparing and matching report and count; collecting also asks the inventory, once.  Only after all
that is the verdict counted, once.
-/
namespace Oval

/-- What comparing versions does.  It asks nothing. -/
inductive Effect.IsComparison : Effect → Prop
  | ordered (actual expected : String) (epoch version release : Ordering) :
    IsComparison (.event (.evrCompared actual expected epoch version release))
  | compared (success : Bool) : IsComparison (.count (.evrCompared success))

/-- What assessing a test does before its verdict is counted: comparing and collecting. -/
inductive Effect.IsProbe : Effect → Prop
  | ordered (actual expected : String) (epoch version release : Ordering) :
    IsProbe (.event (.evrCompared actual expected epoch version release))
  | compared (success : Bool) : IsProbe (.count (.evrCompared success))
  | asked (query : Query) : IsProbe (.query query)
  | collected (testId : String) (kind : Kind) (items states : Nat) (exist : Bool) :
    IsProbe (.event (.itemsCollected testId kind items states exist))

theorem Effect.IsComparison.isProbe {effect : Effect} (h : effect.IsComparison) :
    effect.IsProbe := by
  cases h with
  | ordered => exact .ordered ..
  | compared => exact .compared _

/-- What evaluating itself emits: events, increments and questions.  It delivers nothing, and
nothing blocks it. -/
def Effect.IsWork : Effect → Prop
  | event _ | count _ | query _ => True
  | deliver _ | blocked _ => False

theorem Effect.IsProbe.isWork {effect : Effect} (h : effect.IsProbe) : effect.IsWork := by
  cases h <;> trivial

namespace Traced

variable {α β : Type} {P : Effect → Prop}

def Only (P : Effect → Prop) (x : Traced α) : Prop := ∀ effect ∈ x.effects, P effect

theorem Only.mono {Q : Effect → Prop} {x : Traced α} (h : Only P x)
    (hPQ : ∀ effect, P effect → Q effect) : Only Q x :=
  fun effect hmem => hPQ effect (h effect hmem)

theorem only_pure (a : α) : Only P (pure a : Traced α) := by
  intro effect h
  exact absurd h List.not_mem_nil

theorem only_emit {effect : Effect} (h : P effect) : Only P (emit effect) := by
  intro other hother
  rw [List.mem_singleton.mp hother]
  exact h

theorem only_bind {x : Traced α} {f : α → Traced β} (hx : Only P x) (hf : ∀ a, Only P (f a)) :
    Only P (x >>= f) := by
  intro effect h
  rw [effects_bind, List.mem_append] at h
  rcases h with h | h
  · exact hx effect h
  · exact hf x.value effect h

end Traced

namespace Assess

open Traced (Only only_pure only_bind only_emit)

variable {α β : Type} {P : Effect → Prop}

theorem only_bind_run {x : Assess α} {f : α → Assess β} (hx : Only P x.run)
    (hf : ∀ a, Only P (f a).run) : Only P (x >>= f).run := by
  rw [ExceptT.run_bind]
  apply only_bind hx
  intro result
  cases result with
  | ok a => exact hf a
  | error cause => exact only_pure _

theorem only_mapM_run {f : α → Assess β} (hf : ∀ a, Only P (f a).run) (l : List α) :
    Only P (l.mapM f).run := by
  induction l with
  | nil => exact only_pure _
  | cons a r ih =>
    rw [List.mapM_cons]
    apply only_bind_run (hf a)
    intro b
    apply only_bind_run ih
    intro bs
    exact only_pure _

theorem only_satisfiesReported (operation : EvrOperation) (actual expected : String) :
    Only Effect.IsComparison (Evr.satisfiesReported operation actual expected) := by
  have hcompare : Only Effect.IsComparison (Evr.compareReported actual expected) := by
    unfold Evr.compareReported
    split
    · exact only_pure _
    · exact only_bind (only_emit (.ordered ..)) fun _ => only_pure _
  have hcounted (result : Except EvrError Bool) : Only Effect.IsComparison (do
      Traced.count (.evrCompared result.isOk)
      pure result) :=
    only_bind (only_emit (.compared _)) fun _ => only_pure _
  cases operation with
  | unknown text => exact hcounted (.error (.unknownOperation text))
  | known relation =>
    exact only_bind (only_bind hcompare fun _ => only_pure _) fun _ => hcounted _

theorem only_admits (state : TaggedState) (item : Item) :
    Only Effect.IsComparison (state.admits item).run := by
  unfold Tagged.admits
  split
  · unfold PackageState.admits
    split
    · exact only_pure _
    · split
      · exact only_bind (only_satisfiesReported _ _ _) fun _ => only_pure _
      · exact only_pure _
  · exact only_pure _
  · exact only_pure _

theorem only_judge (test : Test) (states : List TaggedState) (items : List Item) :
    Only Effect.IsComparison (Registry.judge test states items).run := by
  have hall (item : Item) : Only Effect.IsComparison (Registry.admitsAll states item).run :=
    only_bind_run (only_mapM_run (only_admits · item) states) fun _ => only_pure _
  unfold Registry.judge
  dsimp only
  split
  · exact only_pure _
  · exact only_bind_run (only_mapM_run hall items) fun _ => only_pure _

theorem only_collect (inv : Inventory) (object : TaggedObject) :
    Only Effect.IsProbe (object.collect inv).run := by
  cases object with
  | package format o =>
    apply only_bind_run
    · exact only_bind (only_emit (.asked _)) fun _ => only_pure _
    · exact fun _ => only_pure _
  | text o =>
    apply only_bind_run
    · exact only_bind (only_emit (.asked _)) fun _ => only_pure _
    · exact fun _ => only_bind_run (only_pure _) fun _ => only_pure _

end Assess

namespace Registry

variable (r : Registry) (inv : Inventory) (t : TaggedTest)

theorem only_isProbe_outcomeOf : (r.outcomeOf inv t).run.Only Effect.IsProbe := by
  unfold outcomeOf
  apply Assess.only_bind_run
  · exact Traced.only_pure (r.resolve t)
  rintro ⟨object, states⟩
  apply Assess.only_bind_run
  · exact Assess.only_collect inv object
  intro items
  apply Assess.only_bind_run
  · exact Traced.only_bind (Traced.only_emit (.collected ..)) fun _ => Traced.only_pure _
  · intro _
    exact (Assess.only_judge t.test states items).mono fun _ => Effect.IsComparison.isProbe

theorem effects_assess :
    (r.assess inv t).effects = (r.outcomeOf inv t).run.effects ++
      [.count (.testEvaluated t.kind (r.outcomeOf inv t).run.value.isOk)] := rfl

/-- Assessing a test does nothing but report, count and ask. -/
theorem only_isWork_assess : (r.assess inv t).Only Effect.IsWork := by
  intro effect h
  rw [effects_assess, List.mem_append] at h
  rcases h with h | h
  · exact (r.only_isProbe_outcomeOf inv t effect h).isWork
  · rw [List.mem_singleton.mp h]
    trivial

end Registry

theorem queries_eq_nil_of_only {α : Type} {x : Traced α} (h : x.Only Effect.IsComparison) :
    queries x.effects = [] := by
  apply List.filterMap_eq_nil_iff.mpr
  intro effect hmem
  cases h effect hmem <;> rfl

def Tagged.query : TaggedObject → Query
  | .package format o => .packages format o.name
  | .text o => .file o.filepath

theorem Assess.effects_run_bind {α β : Type} (x : Assess α) (f : α → Assess β) :
    (x >>= f).run.effects = x.run.effects ++
      match x.run.value with
      | .ok a => (f a).run.effects
      | .error _ => [] := by
  rw [ExceptT.run_bind, Traced.effects_bind]
  cases x.run.value <;> rfl

theorem queries_collect (inv : Inventory) (object : TaggedObject) :
    queries (object.collect inv).run.effects = [object.query] := by
  cases object with
  | package format o =>
    rw [Tagged.collect, Assess.effects_run_bind, queries_append]
    split <;> rfl
  | text o =>
    rw [Tagged.collect, Assess.effects_run_bind, queries_append]
    split
    · rw [Assess.effects_run_bind, queries_append]
      split <;> rfl
    · rfl

/-- A test whose references can be used asks for the items of its object, and nothing else.  One
whose references cannot be used asks nothing. -/
theorem Registry.queries_assess (r : Registry) (inv : Inventory) (t : TaggedTest) :
    queries (r.assess inv t).effects =
      match r.resolve t with
      | .ok (object, _) => [object.query]
      | .error _ => [] := by
  have hcounted :
      queries [.count (.testEvaluated t.kind (r.outcomeOf inv t).run.value.isOk)] = [] := rfl
  rw [effects_assess, queries_append, hcounted, List.append_nil, outcomeOf]
  cases r.resolve t with
  | error cause => rfl
  | ok resolved =>
    obtain ⟨object, states⟩ := resolved
    change queries (object.collect inv >>= fun _ => _ : Assess Bool).run.effects = _
    rw [Assess.effects_run_bind, queries_append, queries_collect]
    split
    · rename_i items _
      change [object.query] ++ queries (judge t.test states items).run.effects = _
      rw [queries_eq_nil_of_only (Assess.only_judge t.test states items), List.append_nil]
    · rfl

end Oval
