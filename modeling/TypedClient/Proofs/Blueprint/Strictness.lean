import TypedClient.Proofs.Blueprint.Basic
import TypedClient.Proofs.Validator.Occurrence

/-!
# What strict mode refuses

A strict blueprint is a lenient one in which nothing is lost: `any` occurs in none of its
declarations.  Where something is lost, the strict attempt ends in a compile fault, and where there
is no lenient blueprint there is no strict one.
-/

namespace TypedClient.Blueprint

open Validator (Occurs)

variable {document : Document} {blueprint : Blueprint}

/-- A strict blueprint is a lenient one in whose declarations `any` does not occur. -/
lemma ofDocument_true_iff :
    ofDocument true document = .ok blueprint ↔
      ofDocument false document = .ok blueprint ∧
        ∀ d ∈ blueprint.declarations, ¬Occurs .any d.validator := by
  rw [ofDocument_eq_ok_iff, ofDocument_eq_ok_iff, declarations, List.forall_mem_append]
  constructor
  · rintro ⟨schemas, routes, hschemas, hroutes, hstrict, rfl⟩
    obtain ⟨hnamed, hinline⟩ := hstrict rfl
    exact ⟨⟨schemas, routes, hschemas, hroutes, by simp, rfl⟩,
      Declaration.noneDegraded_notices_iff.1 hnamed,
      Declaration.noneDegraded_inlineNotices_iff.1 hinline⟩
  · rintro ⟨⟨schemas, routes, hschemas, hroutes, -, rfl⟩, hnamed, hinline⟩
    exact ⟨schemas, routes, hschemas, hroutes,
      fun _ => ⟨Declaration.noneDegraded_notices_iff.2 hnamed,
        Declaration.noneDegraded_inlineNotices_iff.2 hinline⟩, rfl⟩

/-- Where there is a lenient blueprint but no strict one, the fault is one of compilation. -/
lemma exists_compile_of_ofDocument_true {failure : Failure}
    (hlenient : ofDocument false document = .ok blueprint)
    (hstrict : ofDocument true document = .error failure) :
    ∃ d : Degradation, failure.toFault = .compile d.message := by
  obtain ⟨schemas, routes, hschemas, hroutes, -, -⟩ := ofDocument_eq_ok_iff.1 hlenient
  obtain ⟨d, rfl⟩ := exists_degraded_of_ofDocument_eq_error hschemas hroutes hstrict
  exact ⟨d, rfl⟩

/-- Strict mode is lenient mode that refuses the blueprints in which `any` occurs, with a compile
fault. -/
theorem ofDocument_strict_eq_lenient (document : Document) :
    (∀ blueprint, ofDocument true document = .ok blueprint ↔
      ofDocument false document = .ok blueprint ∧
        ∀ d ∈ blueprint.declarations, ¬Occurs .any d.validator) ∧
    (∀ blueprint failure, ofDocument false document = .ok blueprint →
      ofDocument true document = .error failure →
        ∃ d : Degradation, failure.toFault = .compile d.message) ∧
    (∀ failure, ofDocument false document = .error failure →
      ∃ failure', ofDocument true document = .error failure') := by
  refine ⟨fun _ => ofDocument_true_iff, fun _ _ => exists_compile_of_ofDocument_true, ?_⟩
  intro failure hlenient
  cases hstrict : ofDocument true document with
  | error failure' => exact ⟨failure', rfl⟩
  | ok blueprint =>
    obtain ⟨hok, -⟩ := ofDocument_true_iff.1 hstrict
    rw [hlenient] at hok
    cases hok

end TypedClient.Blueprint
