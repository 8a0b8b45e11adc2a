import TypedClient.Proofs.Validator.Declaration

/-!
# Losses are visible

Where the validator of a schema accepts more than the schema says, it contains `any`, and it
contains `any` nowhere else.  So a degradation is noted about a schema if and only if `any` occurs
in its validator (`Schema.exists_degraded_iff`).
-/

namespace TypedClient

namespace Validator

/-- A validator occurs in another one: it is the other one or occurs in a part of it. -/
inductive Occurs (v : Validator) : Validator → Prop where
  | here : Occurs v v
  | field {fields mode f} : f ∈ fields → Occurs v f.body → Occurs v (.object fields mode)
  | item {items} : Occurs v items → Occurs v (.array items)
  | member {members m} : m ∈ members → Occurs v m → Occurs v (.union members)
  | nullable {inner} : Occurs v inner → Occurs v (.nullable inner)
  | optional {inner} : Occurs v inner → Occurs v (.optional inner)

/-! ## Where `any` occurs -/

@[simp] lemma occurs_any_any : Occurs .any .any := .here

@[simp] lemma not_occurs_any_string : ¬Occurs .any .string := nofun

@[simp] lemma not_occurs_any_number : ¬Occurs .any .number := nofun

@[simp] lemma not_occurs_any_boolean : ¬Occurs .any .boolean := nofun

@[simp] lemma not_occurs_any_reference (name : String) (deferred : Bool) :
    ¬Occurs .any (.reference name deferred) := nofun

@[simp] lemma occurs_any_object {fields : List (Field Validator)} {mode : Mode} :
    Occurs .any (.object fields mode) ↔ ∃ f ∈ fields, Occurs .any f.body :=
  ⟨fun | .field hf h => ⟨_, hf, h⟩, fun ⟨_, hf, h⟩ => .field hf h⟩

@[simp] lemma occurs_any_array {items : Validator} :
    Occurs .any (.array items) ↔ Occurs .any items :=
  ⟨fun | .item h => h, .item⟩

@[simp] lemma occurs_any_union {members : List Validator} :
    Occurs .any (.union members) ↔ ∃ m ∈ members, Occurs .any m :=
  ⟨fun | .member hm h => ⟨_, hm, h⟩, fun ⟨_, hm, h⟩ => .member hm h⟩

@[simp] lemma occurs_any_nullable {inner : Validator} :
    Occurs .any (.nullable inner) ↔ Occurs .any inner :=
  ⟨fun | .nullable h => h, .nullable⟩

@[simp] lemma occurs_any_optional {inner : Validator} :
    Occurs .any (.optional inner) ↔ Occurs .any inner :=
  ⟨fun | .optional h => h, .optional⟩

end Validator

open Validator (Occurs)

namespace Schema

variable {order : SchemaOrder} {current : String}

/-- To accept `null` as well is no loss. -/
@[simp] lemma occurs_any_orNull (notes : Notes) (v : Validator) :
    Occurs .any (orNull notes v) ↔ Occurs .any v := by
  unfold orNull
  split
  · exact Validator.occurs_any_nullable
  · rfl

/-- A degradation is noted about a part if and only if `any` occurs in its validator. -/
lemma exists_degraded_part_iff (s : Schema) :
    (∃ d, Notice.degraded d ∈ s.partNotices order current) ↔
      Occurs .any (s.partValidator order current) := by
  induction s using Schema.inductionOn with
  | reference n pointer =>
    rw [partNotices, partValidator, occurs_any_orNull, pointerNotices, pointerValidator]
    cases order.target? pointer with
    | none => simp
    | some target => by_cases h : order.isForward current target <;> simp [h]
  | object n properties required additional ih =>
    simp [partNotices, partValidator, Validator.openObject]
  | freeObject n required additional =>
    simp [partNotices, partValidator, Validator.openObject]
  | array n items ih =>
    rw [partNotices, partValidator, occurs_any_orNull, Validator.occurs_any_array, ih]
  | freeArray n => simp [partNotices, partValidator]
  | primitive n type => cases type <;> simp [partNotices, partValidator]
  | union n members ih =>
    simp only [partNotices, partValidator, occurs_any_orNull, Validator.occurs_any_union,
      memberNotices_eq_flatMap, memberValidators_eq_map, List.mem_flatMap, List.mem_map]
    constructor
    · rintro ⟨d, m, hm, hd⟩
      exact ⟨_, ⟨m, hm, rfl⟩, (ih m hm).1 ⟨d, hd⟩⟩
    · rintro ⟨_, ⟨m, hm, rfl⟩, hoccurs⟩
      obtain ⟨d, hd⟩ := (ih m hm).2 hoccurs
      exact ⟨d, m, hm, hd⟩
  | unknown n type => simp [partNotices, partValidator]

/-- `any` occurs in the field of a property if and only if it occurs in the validator of the
property. -/
lemma occurs_any_propertyField {required : List String} {p : String × Schema} :
    Occurs .any (propertyField order current required p).body ↔
      Occurs .any (p.2.partValidator order current) := by
  simp only [propertyField]
  split
  · rfl
  · exact Validator.occurs_any_optional

/-- A degradation is noted about a schema if and only if `any` occurs in its validator. -/
lemma exists_degraded_iff (s : Schema) :
    (∃ d, Notice.degraded d ∈ s.notices order current) ↔
      Occurs .any (s.validator order current) := by
  cases s with
  | object n properties required additional =>
    simp only [notices, validator, occurs_any_orNull, Validator.occurs_any_object,
      List.mem_flatMap, List.mem_map]
    constructor
    · rintro ⟨d, p, hp, hd⟩
      exact ⟨_, ⟨p, hp, rfl⟩, occurs_any_propertyField.2 ((exists_degraded_part_iff p.2).1 ⟨d, hd⟩)⟩
    · rintro ⟨_, ⟨p, hp, rfl⟩, hoccurs⟩
      obtain ⟨d, hd⟩ := (exists_degraded_part_iff p.2).2 (occurs_any_propertyField.1 hoccurs)
      exact ⟨d, p, hp, hd⟩
  | array n items =>
    rw [notices, validator, occurs_any_orNull, Validator.occurs_any_array]
    exact exists_degraded_part_iff items
  | _ => simp [notices, validator]

end Schema

namespace Declaration

variable {schemas : Entries Schema} {order : SchemaOrder}

/-- Nothing is lost in the declarations of named schemas if and only if no notice is a
degradation. -/
lemma noneDegraded_notices_iff :
    Notice.NoneDegraded (notices schemas order) ↔
      ∀ d ∈ compiled schemas order, ¬Occurs .any d.validator := by
  simp only [Notice.NoneDegraded, notices, compiled, List.mem_flatMap, List.forall_mem_map,
    ← Schema.exists_degraded_iff]
  grind

/-- Nothing is lost in the declarations of the schemas of single operations if and only if no notice
is a degradation. -/
lemma noneDegraded_inlineNotices_iff :
    Notice.NoneDegraded (inlineNotices schemas order) ↔
      ∀ d ∈ compiledInline schemas order, ¬Occurs .any d.validator := by
  simp only [Notice.NoneDegraded, inlineNotices, compiledInline, List.mem_flatMap,
    List.forall_mem_map, ← Schema.exists_degraded_iff]
  grind

end Declaration

end TypedClient
