import Oval.Proofs.Document.Criteria
import Oval.Proofs.Document.Entity

/-! # Documents are read back

A document that was read in any notation is written in one, and read from that as the same
document.
-/
namespace Oval

open Json

theorem Metadata.restores : Restores Metadata.ofJson? Metadata.toJson := by
  have htitle := restores_string.defaulted "" rfl
  have hdescription := restores_string.optional rfl
  refine restores_present (by decide) (fun _ => rfl) ?_ ?_
  · intro m
    simp only [List.forall_mem_cons]
    exact ⟨htitle.plain _, hdescription.plain _, List.forall_mem_nil _⟩
  · intro fs m h
    split at h
    · simp only [Option.bind_eq_bind, Option.bind_eq_some_iff, Option.some.injEq] at h
      obtain ⟨_, h1, _, h2, rfl⟩ := h
      simp [htitle.restored h1, hdescription.restored h2]
    · cases h

theorem Definition.restores : Restores Definition.ofJson? Definition.toJson := by
  have hid := restores_string.required
  have hmetadata := Metadata.restores.defaulted {} rfl
  have hcriteria := Criteria.restores.required
  refine restores_record (by decide) (fun _ => rfl) ?_ ?_
  · intro d
    simp only [List.forall_mem_cons]
    exact ⟨restores_string.plain _, Metadata.restores.plain _, Criteria.restores.plain _,
      List.forall_mem_nil _⟩
  · intro fs d h
    split at h
    · simp only [Option.bind_eq_bind, Option.bind_eq_some_iff, Option.some.injEq] at h
      obtain ⟨_, h1, _, h2, _, h3, rfl⟩ := h
      simp [hid.restored h1, hmetadata.restored h2, hcriteria.restored h3]
    · cases h

theorem Document.restores : Restores Document.ofJson? Document.toJson := by
  have hdefinitions := Definition.restores.list.defaulted [] rfl
  have htests := Tests.restores.defaulted {} rfl
  have hobjects := Objects.restores.defaulted {} rfl
  have hstates := States.restores.defaulted {} rfl
  refine restores_record (by decide) (fun _ => rfl) ?_ ?_
  · intro d
    simp only [List.forall_mem_cons]
    exact ⟨Definition.restores.list.plain _, Tests.restores.plain _, Objects.restores.plain _,
      States.restores.plain _, List.forall_mem_nil _⟩
  · intro fs d h
    split at h
    · simp only [Option.bind_eq_bind, Option.bind_eq_some_iff, Option.some.injEq] at h
      obtain ⟨_, h1, _, h2, _, h3, _, h4, rfl⟩ := h
      simp [hdefinitions.restored h1, htests.restored h2, hobjects.restored h3,
        hstates.restored h4]
    · cases h

end Oval
