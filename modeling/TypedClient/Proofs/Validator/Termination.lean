import TypedClient.Proofs.Validator.Acceptance
import TypedClient.Proofs.Validator.Question

/-!
# Validation ends

The questions to the validators of schemas end, whatever circles the schemas form
(`Schema.acc_value_validator`).  The validator of a named schema is no reference, so it comes to the
references in it only at the parts of the value, and the induction is on the value, as for the
meaning of schemas.
-/

namespace TypedClient

namespace Validator

variable {registry : Registry} {value : Json}

/-- A validator that accepts anything asks no other. -/
lemma acc_value_any : Acc (Subquestion registry) (.value .any value) :=
  .intro _ (by rintro _ ⟨⟩)

/-- A validator of open objects asks no other. -/
lemma acc_value_openObject : Acc (Subquestion registry) (.value openObject value) := by
  refine .intro _ fun q hq => ?_
  rw [openObject] at hq
  cases hq with
  | present _ hf _ | absent _ hf _ => simp at hf

/-- To accept `null` as well asks nothing that the validator does not. -/
lemma acc_value_orNull (notes : Notes) {v : Validator}
    (h : Acc (Subquestion registry) (.value v value)) :
    Acc (Subquestion registry) (.value (Schema.orNull notes v) value) := by
  unfold Schema.orNull
  split
  · refine .intro _ fun q hq => ?_
    cases hq with
    | nullable _ _ => exact h
  · exact h

/-- Whether absence is allowed does not depend on whether `null` is accepted. -/
lemma acc_absence_orNull (notes : Notes) {v : Validator}
    (h : Acc (Subquestion registry) (.absence v)) :
    Acc (Subquestion registry) (.absence (Schema.orNull notes v)) := by
  unfold Schema.orNull
  split
  · refine .intro _ fun q hq => ?_
    cases hq with
    | absenceNullable _ => exact h
  · exact h

/-- An array asks the validator of its items. -/
lemma acc_value_array {items : Validator}
    (h : ∀ v ∈ value.parts, Acc (Subquestion registry) (.value items v)) :
    Acc (Subquestion registry) (.value (.array items) value) := by
  refine .intro _ fun q hq => ?_
  cases hq with
  | item _ hv => exact h _ hv

end Validator

namespace Schema

open Validator (Subquestion)

variable {registry : Registry} {schemas : Entries Schema} {order : SchemaOrder}
  {current : String} {value : Json}

/-- Whether the validator of a named schema allows absence is known without any question to a
reference. -/
lemma acc_absence_validator (s : Schema) :
    Acc (Subquestion registry) (.absence (s.validator order current)) := by
  cases s with
  | object n properties required additional =>
    rw [validator]
    exact Validator.acc_absence_orNull n (.intro _ (by rintro _ ⟨⟩))
  | array n items =>
    rw [validator]
    exact Validator.acc_absence_orNull n (.intro _ (by rintro _ ⟨⟩))
  | _ => exact .intro _ (by rintro _ ⟨⟩)

/-- Whether the validator of a part allows absence is known after at most one reference. -/
lemma acc_absence_partValidator (hserves : registry.Serves schemas order) (s : Schema) :
    Acc (Subquestion registry) (.absence (s.partValidator order current)) := by
  induction s using Schema.inductionOn with
  | reference n pointer =>
    rw [partValidator, pointerValidator]
    refine Validator.acc_absence_orNull n ?_
    obtain ⟨htarget, -⟩ | ⟨name, s, htarget, hs, -⟩ := hserves.resolve pointer
    · simp only [htarget]
      exact .intro _ (by rintro _ ⟨⟩)
    · simp only [htarget]
      refine .intro _ fun q hq => ?_
      cases hq with
      | absenceTarget deferred hname _ =>
        obtain rfl := Option.some_inj.1 ((hserves.get?_eq name s hs).symm.trans hname)
        exact acc_absence_validator s
  | union n members ih =>
    rw [partValidator, memberValidators_eq_map]
    refine Validator.acc_absence_orNull n (.intro _ fun q hq => ?_)
    cases hq with
    | absenceMember hmember =>
      obtain ⟨m, hm, rfl⟩ := List.mem_map.1 hmember
      exact ih m hm
  | primitive n type =>
    cases type <;>
    · rw [partValidator]
      exact Validator.acc_absence_orNull n (.intro _ (by rintro _ ⟨⟩))
  | _ =>
    rw [partValidator]
    exact Validator.acc_absence_orNull _ (.intro _ (by rintro _ ⟨⟩))

/-- The validator of a named schema asks only about absence and about parts of the value. -/
lemma acc_value_validator_of_parts (hserves : registry.Serves schemas order)
    (hparts : ∀ v ∈ value.parts, ∀ (s : Schema) current,
      Acc (Subquestion registry) (.value (s.partValidator order current) v))
    (s : Schema) (current : String) :
    Acc (Subquestion registry) (.value (s.validator order current) value) := by
  cases s with
  | object n properties required additional =>
    rw [validator]
    refine Validator.acc_value_orNull n (.intro _ fun q hq => ?_)
    cases hq with
    | present mode hf hv =>
      obtain ⟨p, -, rfl⟩ := List.mem_map.1 hf
      have hpart := hparts _ (Json.mem_parts_of_get? hv) p.2 current
      rw [propertyField]
      dsimp only
      split
      · exact hpart
      · refine .intro _ fun q hq => ?_
        cases hq with
        | optional _ _ => exact hpart
    | absent mode hf _ =>
      obtain ⟨p, -, rfl⟩ := List.mem_map.1 hf
      rw [propertyField]
      dsimp only
      split
      · exact acc_absence_partValidator hserves p.2
      · exact .intro _ (by rintro _ ⟨⟩)
  | array n items =>
    rw [validator]
    exact Validator.acc_value_orNull n (Validator.acc_value_array fun v hv => hparts v hv items _)
  | _ => exact Validator.acc_value_any

/-- The validator of a part asks those of named schemas about the value, and those of parts about
the parts of the value. -/
lemma acc_value_partValidator_of_parts (hserves : registry.Serves schemas order)
    (hnamed : ∀ (s : Schema) current,
      Acc (Subquestion registry) (.value (s.validator order current) value))
    (hparts : ∀ v ∈ value.parts, ∀ (s : Schema) current,
      Acc (Subquestion registry) (.value (s.partValidator order current) v))
    (s : Schema) (current : String) :
    Acc (Subquestion registry) (.value (s.partValidator order current) value) := by
  induction s using Schema.inductionOn with
  | reference n pointer =>
    rw [partValidator, pointerValidator]
    refine Validator.acc_value_orNull n ?_
    obtain ⟨htarget, -⟩ | ⟨name, s, htarget, hs, -⟩ := hserves.resolve pointer
    · simp only [htarget]
      exact Validator.acc_value_any
    · simp only [htarget]
      refine .intro _ fun q hq => ?_
      cases hq with
      | target deferred _ hname =>
        obtain rfl := Option.some_inj.1 ((hserves.get?_eq name s hs).symm.trans hname)
        exact hnamed s name
  | array n items ih =>
    rw [partValidator]
    exact Validator.acc_value_orNull n (Validator.acc_value_array fun v hv => hparts v hv items _)
  | freeArray n =>
    rw [partValidator]
    exact Validator.acc_value_orNull n
      (Validator.acc_value_array fun _ _ => Validator.acc_value_any)
  | union n members ih =>
    rw [partValidator, memberValidators_eq_map]
    refine Validator.acc_value_orNull n (.intro _ fun q hq => ?_)
    cases hq with
    | member hmember _ =>
      obtain ⟨m, hm, rfl⟩ := List.mem_map.1 hmember
      exact ih m hm
  | primitive n type =>
    cases type <;>
    · rw [partValidator]
      exact Validator.acc_value_orNull n (.intro _ (by rintro _ ⟨⟩))
  | unknown n type =>
    rw [partValidator]
    exact Validator.acc_value_orNull n Validator.acc_value_any
  | _ =>
    rw [partValidator]
    exact Validator.acc_value_orNull _ Validator.acc_value_openObject

/-- The questions to the validator of a part end. -/
lemma acc_value_partValidator (hserves : registry.Serves schemas order) (value : Json) (s : Schema)
    (current : String) :
    Acc (Subquestion registry) (.value (s.partValidator order current) value) := by
  induction value using Json.inductionOnParts generalizing s current with
  | step value ih =>
    exact acc_value_partValidator_of_parts hserves (acc_value_validator_of_parts hserves ih) ih s
      current

/-- The questions to the validator of a named schema end. -/
lemma acc_value_validator (hserves : registry.Serves schemas order) (value : Json) (s : Schema)
    (current : String) :
    Acc (Subquestion registry) (.value (s.validator order current) value) :=
  acc_value_validator_of_parts hserves (fun v _ => acc_value_partValidator hserves v) s current

end Schema

end TypedClient
