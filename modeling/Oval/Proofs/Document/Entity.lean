import Oval.Document.Json
import Oval.Proofs.Json.Record

/-! # Tests, objects and states are read back

Each reader takes a record apart field by field.  A proof names what restores each field, and
inverts the reader once: what it built was built from fields that are restored.
-/
namespace Oval

open Json

theorem Check.restores : Restores Check.ofJson? fun c => ofString c.text :=
  restores_oneOf (fun _ => rfl) Check.modes Check.text

theorem Existence.restores : Restores Existence.ofJson? fun e => ofString e.text :=
  restores_oneOf (fun _ => rfl) Existence.modes Existence.text

/-- An operation is read from its own text, also when that text names none. -/
theorem EvrOperation.ofText_text_ofText (s : String) : ofText (ofText s).text = ofText s := by
  have hknown (r : Relation) : ofText r.text = known r := by cases r <;> decide +kernel
  cases h : ofText s with
  | known r => exact hknown r
  | unknown t =>
    obtain rfl : t = s := by
      unfold ofText at h
      split at h
      · cases h
      · exact (EvrOperation.unknown.inj h).symm
    exact h

theorem EvrOperation.restores : Restores EvrOperation.ofJson? fun o => ofString o.text where
  plain o := .string (some o.text)
  restored {v o} hread := by
    obtain ⟨s, -, rfl⟩ := Option.map_eq_some_iff.mp hread
    exact congrArg some (ofText_text_ofText s)

theorem TextOperation.ofText_text_ofText (s : String) : ofText (ofText s).text = ofText s := by
  cases h : ofText s with
  | unknown t =>
    obtain rfl : t = s := by
      simp only [ofText] at h
      split at h
      · cases h
      · split at h
        · cases h
        · split at h
          · cases h
          · exact (TextOperation.unknown.inj h).symm
    exact h
  | _ => decide +kernel

theorem TextOperation.restores : Restores TextOperation.ofJson? fun o => ofString o.text where
  plain o := .string (some o.text)
  restored {v o} hread := by
    obtain ⟨s, -, rfl⟩ := Option.map_eq_some_iff.mp hread
    exact congrArg some (ofText_text_ofText s)

theorem Test.restores : Restores Test.ofJson? Test.toJson := by
  have htext := restores_string.required
  have hcomment := restores_string.optional rfl
  have hcheck := Check.restores.defaulted .all rfl
  have hexistence := Existence.restores.defaulted .atLeastOneExists rfl
  have hstates := restores_string.list.defaulted [] rfl
  refine restores_present (by decide) (fun _ => rfl) ?_ ?_
  · intro t
    simp only [List.forall_mem_cons]
    exact ⟨htext.plain _, hcomment.plain _, hcheck.plain _, hexistence.plain _, htext.plain _,
      hstates.plain _, List.forall_mem_nil _⟩
  · intro fs t h
    split at h
    · simp only [Option.bind_eq_bind, Option.bind_eq_some_iff, Option.some.injEq] at h
      obtain ⟨_, h1, _, h2, _, h3, _, h4, _, h5, _, h6, rfl⟩ := h
      simp [htext.restored h1, hcomment.restored h2, hcheck.restored h3, hexistence.restored h4,
        htext.restored h5, ofList, hstates.restored h6]
    · cases h

theorem PackageObject.restores : Restores PackageObject.ofJson? PackageObject.toJson := by
  have htext := restores_string.required
  refine restores_record (by decide) (fun _ => rfl) ?_ ?_
  · intro o
    simp only [List.forall_mem_cons]
    exact ⟨restores_string.plain _, restores_string.plain _, List.forall_mem_nil _⟩
  · intro fs o h
    split at h
    · simp only [Option.bind_eq_bind, Option.bind_eq_some_iff, Option.some.injEq] at h
      obtain ⟨_, h1, _, h2, rfl⟩ := h
      simp [htext.restored h1, htext.restored h2]
    · cases h

theorem TextObject.restores : Restores TextObject.ofJson? TextObject.toJson := by
  have htext := restores_string.required
  have hinstance := restores_word.optional rfl
  refine restores_present (by decide) (fun _ => rfl) ?_ ?_
  · intro o
    simp only [List.forall_mem_cons]
    exact ⟨htext.plain _, htext.plain _, htext.plain _, hinstance.plain _, List.forall_mem_nil _⟩
  · intro fs o h
    split at h
    · simp only [Option.bind_eq_bind, Option.bind_eq_some_iff, Option.some.injEq] at h
      obtain ⟨_, h1, _, h2, _, h3, _, h4, rfl⟩ := h
      simp [htext.restored h1, htext.restored h2, htext.restored h3, hinstance.restored h4]
    · cases h

theorem EvrRequirement.restores : Restores EvrRequirement.ofJson? EvrRequirement.toJson := by
  have hoperation := EvrOperation.restores.defaulted (.known .equals) rfl
  have hvalue := restores_string.required
  refine restores_record (by decide) (fun _ => rfl) ?_ ?_
  · intro r
    simp only [List.forall_mem_cons]
    exact ⟨EvrOperation.restores.plain _, restores_string.plain _, List.forall_mem_nil _⟩
  · intro fs r h
    split at h
    · simp only [Option.bind_eq_bind, Option.bind_eq_some_iff, Option.some.injEq] at h
      obtain ⟨_, h1, _, h2, rfl⟩ := h
      simp [hoperation.restored h1, hvalue.restored h2]
    · cases h

theorem PackageState.restores : Restores PackageState.ofJson? PackageState.toJson := by
  have hid := restores_string.required
  have hevr := EvrRequirement.restores.optional rfl
  have harch := restores_string.optional rfl
  refine restores_present (by decide) (fun _ => rfl) ?_ ?_
  · intro s
    simp only [List.forall_mem_cons]
    exact ⟨hid.plain _, hevr.plain _, harch.plain _, List.forall_mem_nil _⟩
  · intro fs s h
    split at h
    · simp only [Option.bind_eq_bind, Option.bind_eq_some_iff, Option.some.injEq] at h
      obtain ⟨_, h1, _, h2, _, h3, rfl⟩ := h
      simp [hid.restored h1, hevr.restored h2, harch.restored h3]
    · cases h

theorem TextRequirement.restores : Restores TextRequirement.ofJson? TextRequirement.toJson := by
  have hoperation := TextOperation.restores.defaulted .equals rfl
  have hvalue := restores_string.required
  refine restores_record (by decide) (fun _ => rfl) ?_ ?_
  · intro r
    simp only [List.forall_mem_cons]
    exact ⟨TextOperation.restores.plain _, restores_string.plain _, List.forall_mem_nil _⟩
  · intro fs r h
    split at h
    · simp only [Option.bind_eq_bind, Option.bind_eq_some_iff, Option.some.injEq] at h
      obtain ⟨_, h1, _, h2, rfl⟩ := h
      simp [hoperation.restored h1, hvalue.restored h2]
    · cases h

theorem TextState.restores : Restores TextState.ofJson? TextState.toJson := by
  have hid := restores_string.required
  have hsubexpression := TextRequirement.restores.optional rfl
  refine restores_present (by decide) (fun _ => rfl) ?_ ?_
  · intro s
    simp only [List.forall_mem_cons]
    exact ⟨hid.plain _, hsubexpression.plain _, List.forall_mem_nil _⟩
  · intro fs s h
    split at h
    · simp only [Option.bind_eq_bind, Option.bind_eq_some_iff, Option.some.injEq] at h
      obtain ⟨_, h1, _, h2, rfl⟩ := h
      simp [hid.restored h1, hsubexpression.restored h2]
    · cases h

/-- A role whose keys differ keeps its three collections apart. -/
theorem Collections.restores {P T : Type} {role : String} {package? : Json → Option P}
    {text? : Json → Option T} {package : P → Json} {text : T → Json}
    (hkeys : (keys role).Nodup) (hpackage : Restores package? package)
    (htext : Restores text? text) :
    Restores (Collections.ofJson? role package? text?) (Collections.toJson role package text) := by
  have hpackages := hpackage.list.defaulted [] rfl
  have htexts := htext.list.defaulted [] rfl
  refine restores_record hkeys (fun _ => rfl) ?_ ?_
  · intro c
    simp only [keys, Kind.lookupOrder, List.map_cons, List.zip_cons_cons, List.forall_mem_cons]
    exact ⟨hpackage.list.plain _, hpackage.list.plain _, htext.list.plain _,
      List.forall_mem_nil _⟩
  · intro fs c h
    split at h
    · simp only [Option.bind_eq_bind, Option.bind_eq_some_iff, Option.some.injEq] at h
      obtain ⟨_, h1, _, h2, _, h3, rfl⟩ := h
      simp [keys, Kind.lookupOrder, hpackages.restored h1, hpackages.restored h2,
        htexts.restored h3]
    · cases h

theorem Tests.restores : Restores Tests.ofJson? Tests.toJson :=
  Collections.restores (by decide) Test.restores Test.restores

theorem Objects.restores : Restores Objects.ofJson? Objects.toJson :=
  Collections.restores (by decide) PackageObject.restores TextObject.restores

theorem States.restores : Restores States.ofJson? States.toJson :=
  Collections.restores (by decide) PackageState.restores TextState.restores

end Oval
