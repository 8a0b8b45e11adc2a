import TypedClient.Proofs.Induction
import TypedClient.Proofs.Schema.Order
import TypedClient.Validator.Declaration

/-!
# The references of compiled schemas

A reference in the validator of a schema comes from a pointer of the schema that leads to a name of
the order, and it is deferred exactly when it is forward (`exists_pointer_of_mem_references`).  The
notices of forward references tell exactly the names of the deferred references
(`forward_mem_notices_iff`).
-/

namespace TypedClient

namespace Schema

variable {order : SchemaOrder} {current : String}

/-- To accept `null` as well adds no reference. -/
@[simp] lemma references_orNull (notes : Notes) (v : Validator) :
    (orNull notes v).references = v.references := by
  unfold orNull
  split
  · rw [Validator.references]
  · rfl

/-- A name that a pointer leads to is in the order. -/
lemma mem_names_of_target? {pointer name : String} (h : order.target? pointer = some name) :
    name ∈ order.names := by
  rw [SchemaOrder.target?, Option.filter_eq_some_iff] at h
  simpa [SchemaOrder.contains] using h.2

/-- A name that a pointer of a schema leads to is a dependency of the schema. -/
lemma mem_dependencies {s : Schema} {pointer name : String} (hpointer : pointer ∈ s.references)
    (h : order.target? pointer = some name) : name ∈ s.dependencies := by
  rw [SchemaOrder.target?, Option.filter_eq_some_iff] at h
  exact mem_distinct.2 (List.mem_filterMap.2 ⟨pointer, hpointer, h.1⟩)

/-- Where a reference in a validator comes from: a pointer of the schema leads to its name, and it
is deferred if and only if it is forward. -/
def ComesFromPointer (order : SchemaOrder) (current : String) (s : Schema) (r : String × Bool) :
    Prop :=
  ∃ pointer ∈ s.references, order.target? pointer = some r.1 ∧ r.2 = order.isForward current r.1

/-- A reference that comes from a part comes from the whole. -/
lemma ComesFromPointer.mono {s t : Schema} {r : String × Bool}
    (hsub : ∀ pointer ∈ s.references, pointer ∈ t.references)
    (h : ComesFromPointer order current s r) : ComesFromPointer order current t r := by
  obtain ⟨pointer, hpointer, htarget, hdeferred⟩ := h
  exact ⟨pointer, hsub pointer hpointer, htarget, hdeferred⟩

/-- Every reference in the validator of a part comes from a pointer of the part. -/
lemma comesFromPointer_of_mem_partValidator (s : Schema) :
    ∀ r ∈ (s.partValidator order current).references, ComesFromPointer order current s r := by
  induction s using Schema.inductionOn with
  | reference n pointer =>
    intro r hr
    rw [partValidator, references_orNull, pointerValidator] at hr
    split at hr
    · next target htarget =>
      rw [Validator.references, List.mem_singleton] at hr
      subst hr
      exact ⟨pointer, by simp [references], htarget, rfl⟩
    · simp [Validator.references] at hr
  | object n properties required additional ih =>
    simp [partValidator, Validator.openObject, Validator.references]
  | freeObject n required additional =>
    simp [partValidator, Validator.openObject, Validator.references]
  | array n items ih =>
    intro r hr
    rw [partValidator, references_orNull, Validator.references] at hr
    exact (ih r hr).mono fun pointer h => by rwa [references]
  | freeArray n => simp [partValidator, Validator.references]
  | primitive n type => cases type <;> simp [partValidator, Validator.references]
  | union n members ih =>
    intro r hr
    rw [partValidator, references_orNull, Validator.references, memberValidators_eq_map,
      Validator.referencesOfMembers_eq_flatMap, List.mem_flatMap] at hr
    obtain ⟨v, hv, hr⟩ := hr
    obtain ⟨m, hm, rfl⟩ := List.mem_map.1 hv
    refine (ih m hm r hr).mono fun pointer h => ?_
    rw [references, referencesOfMembers_eq_flatMap]
    exact List.mem_flatMap.2 ⟨m, hm, h⟩
  | unknown n type => simp [partValidator, Validator.references]

/-- The references of the fields of an object are those of its properties. -/
lemma mem_references_propertyFields {required : List String} {properties : List (String × Schema)}
    {r : String × Bool} :
    r ∈ Validator.referencesOfFields (properties.map (propertyField order current required)) ↔
      ∃ p ∈ properties, r ∈ (p.2.partValidator order current).references := by
  have hbody : ∀ p : String × Schema, (propertyField order current required p).body.references =
      (p.2.partValidator order current).references := by
    intro p
    simp only [propertyField]
    split
    · rfl
    · rw [Validator.references]
  simp only [Validator.referencesOfFields_eq_flatMap, List.flatMap_map, hbody, List.mem_flatMap]

/-- Every reference in the validator of a schema comes from a pointer of the schema. -/
lemma comesFromPointer_of_mem_validator (s : Schema) :
    ∀ r ∈ (s.validator order current).references, ComesFromPointer order current s r := by
  intro r hr
  cases s with
  | object n properties required additional =>
    rw [validator, references_orNull, Validator.references, mem_references_propertyFields] at hr
    obtain ⟨p, hp, hr⟩ := hr
    refine (comesFromPointer_of_mem_partValidator p.2 r hr).mono fun pointer h => ?_
    rw [references, referencesOfProperties_eq_flatMap]
    exact List.mem_flatMap.2 ⟨p, hp, h⟩
  | array n items =>
    rw [validator, references_orNull, Validator.references] at hr
    exact (comesFromPointer_of_mem_partValidator items r hr).mono fun pointer h => by
      rwa [references]
  | _ => simp [validator, Validator.references] at hr

/-! ## The notices of forward references -/

/-- A forward reference is noted about a part if and only if its validator has a deferred reference
to the name. -/
lemma forward_mem_partNotices_iff (s : Schema) (name : String) :
    Notice.forward name ∈ s.partNotices order current ↔
      (name, true) ∈ (s.partValidator order current).references := by
  induction s using Schema.inductionOn with
  | reference n pointer =>
    rw [partNotices, partValidator, references_orNull, pointerNotices, pointerValidator]
    cases order.target? pointer with
    | none => simp [Validator.references]
    | some target =>
      by_cases h : order.isForward current target <;> simp [Validator.references, h]
  | object n properties required additional ih =>
    simp [partNotices, partValidator, Validator.openObject, Validator.references]
  | freeObject n required additional =>
    simp [partNotices, partValidator, Validator.openObject, Validator.references]
  | array n items ih =>
    rw [partNotices, partValidator, references_orNull, Validator.references, ih]
  | freeArray n => simp [partNotices, partValidator, Validator.references]
  | primitive n type => cases type <;> simp [partNotices, partValidator, Validator.references]
  | union n members ih =>
    simp only [partNotices, partValidator, references_orNull, Validator.references,
      memberNotices_eq_flatMap, memberValidators_eq_map,
      Validator.referencesOfMembers_eq_flatMap, List.flatMap_map, List.mem_flatMap]
    exact exists_congr fun m => and_congr_right fun hm => ih m hm
  | unknown n type => simp [partNotices, partValidator, Validator.references]

/-- A forward reference is noted about a schema if and only if its validator has a deferred
reference to the name. -/
lemma forward_mem_notices_iff (s : Schema) (name : String) :
    Notice.forward name ∈ s.notices order current ↔
      (name, true) ∈ (s.validator order current).references := by
  cases s with
  | object n properties required additional =>
    rw [notices, validator, references_orNull, Validator.references,
      mem_references_propertyFields, List.mem_flatMap]
    exact exists_congr fun p => and_congr_right fun _ => forward_mem_partNotices_iff p.2 name
  | array n items =>
    rw [notices, validator, references_orNull, Validator.references]
    exact forward_mem_partNotices_iff items name
  | _ => simp [notices, validator, Validator.references]

end Schema

end TypedClient
