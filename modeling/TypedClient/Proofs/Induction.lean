import Mathlib.Tactic.Lemma
import TypedClient.Json.Basic
import TypedClient.Proofs.Entries
import TypedClient.Validator.OfSchema

/-!
# Induction over values, schemas and validators

Values, schemas and validators contain lists of their own kind, and the functions on them run over
such a list by a companion.  `Schema.inductionOn` and `Validator.inductionOn` are the induction
principles in which the parts of a list are its members, and the companions of the functions are
written as maps over the list.  `Json.inductionOnParts` goes from the parts of a value to the value.
-/

namespace TypedClient

namespace Json

/-- The items of an array, or the values of the members of an object. -/
def parts : Json → List Json
  | .array items => items
  | .object members => Entries.values members
  | _ => []

/-- Induction over a value, with the hypothesis for each of its parts. -/
@[elab_as_elim]
theorem inductionOnParts {motive : Json → Prop} (v : Json)
    (step : ∀ v, (∀ w ∈ v.parts, motive w) → motive v) : motive v :=
  @Json.rec motive (fun items => ∀ w ∈ items, motive w)
    (fun members => ∀ w ∈ Entries.values members, motive w) (fun member => motive member.2)
    (step _ (by simp [parts])) (fun _ => step _ (by simp [parts]))
    (fun _ => step _ (by simp [parts])) (fun _ => step _ (by simp [parts]))
    (fun _ h => step _ h) (fun _ h => step _ h)
    (by simp) (fun _ _ hw hrest => List.forall_mem_cons.2 ⟨hw, hrest⟩)
    (by simp [Entries.values]) (fun _ _ hw hrest => List.forall_mem_cons.2 ⟨hw, hrest⟩)
    (fun _ _ h => h) v

/-- What is found in an object is one of its parts. -/
lemma mem_parts_of_get? {members : Entries Json} {key : String} {v : Json}
    (h : members.get? key = some v) : v ∈ (Json.object members).parts :=
  List.mem_map.2 ⟨(key, v), Entries.mem_of_get? h, rfl⟩

end Json

namespace Schema

/-- Induction over a schema, with the hypothesis for each of its parts. -/
@[elab_as_elim]
theorem inductionOn {motive : Schema → Prop} (s : Schema)
    (reference : ∀ notes pointer, motive (.reference notes pointer))
    (object : ∀ notes properties required additional, (∀ p ∈ properties, motive p.2) →
      motive (.object notes properties required additional))
    (freeObject : ∀ notes required additional, motive (.freeObject notes required additional))
    (array : ∀ notes items, motive items → motive (.array notes items))
    (freeArray : ∀ notes, motive (.freeArray notes))
    (primitive : ∀ notes type, motive (.primitive notes type))
    (union : ∀ notes members, (∀ m ∈ members, motive m) → motive (.union notes members))
    (unknown : ∀ notes type, motive (.unknown notes type)) : motive s :=
  @Schema.rec motive (fun properties => ∀ p ∈ properties, motive p.2)
    (fun members => ∀ m ∈ members, motive m) (fun p => motive p.2)
    reference object freeObject array freeArray primitive union unknown
    (by simp) (fun _ _ hp hrest => List.forall_mem_cons.2 ⟨hp, hrest⟩)
    (by simp) (fun _ _ hm hrest => List.forall_mem_cons.2 ⟨hm, hrest⟩)
    (fun _ _ h => h) s

/-- The pointers in a list of properties are those in its schemas. -/
@[simp] lemma referencesOfProperties_eq_flatMap (properties : List (String × Schema)) :
    referencesOfProperties properties = properties.flatMap fun p => p.2.references := by
  induction properties with
  | nil => rfl
  | cons p rest ih => rw [referencesOfProperties, ih, List.flatMap_cons]

/-- The pointers in a list of schemas are those in its members. -/
@[simp] lemma referencesOfMembers_eq_flatMap (members : List Schema) :
    referencesOfMembers members = members.flatMap references := by
  induction members with
  | nil => rfl
  | cons m rest ih => rw [referencesOfMembers, ih, List.flatMap_cons]

/-- The validators of the members of a union, one for each. -/
@[simp] lemma memberValidators_eq_map (order : SchemaOrder) (current : String)
    (members : List Schema) :
    memberValidators order current members = members.map (partValidator order current) := by
  induction members with
  | nil => rfl
  | cons m rest ih => rw [memberValidators, ih, List.map_cons]

/-- The notices about the members of a union, one member after the other. -/
@[simp] lemma memberNotices_eq_flatMap (order : SchemaOrder) (current : String)
    (members : List Schema) :
    memberNotices order current members = members.flatMap (partNotices order current) := by
  induction members with
  | nil => rfl
  | cons m rest ih => rw [memberNotices, ih, List.flatMap_cons]

end Schema

namespace Validator

/-- Induction over a validator, with the hypothesis for each of its parts. -/
@[elab_as_elim]
theorem inductionOn {motive : Validator → Prop} (v : Validator)
    (string : motive .string) (number : motive .number) (boolean : motive .boolean)
    (any : motive .any)
    (object : ∀ fields mode, (∀ f ∈ fields, motive f.body) → motive (.object fields mode))
    (array : ∀ items, motive items → motive (.array items))
    (union : ∀ members, (∀ m ∈ members, motive m) → motive (.union members))
    (nullable : ∀ inner, motive inner → motive (.nullable inner))
    (optional : ∀ inner, motive inner → motive (.optional inner))
    (reference : ∀ name deferred, motive (.reference name deferred)) : motive v :=
  @Validator.rec motive (fun fields => ∀ f ∈ fields, motive f.body)
    (fun members => ∀ m ∈ members, motive m) (fun f => motive f.body)
    string number boolean any object array union nullable optional reference
    (by simp) (fun _ _ hf hrest => List.forall_mem_cons.2 ⟨hf, hrest⟩)
    (by simp) (fun _ _ hm hrest => List.forall_mem_cons.2 ⟨hm, hrest⟩)
    (fun _ _ _ h => h) v

/-- The references in a list of fields are those in their validators. -/
@[simp] lemma referencesOfFields_eq_flatMap (fields : List (Field Validator)) :
    referencesOfFields fields = fields.flatMap fun f => f.body.references := by
  induction fields with
  | nil => rfl
  | cons f rest ih => rw [referencesOfFields, ih, List.flatMap_cons]

/-- The references in a list of validators are those in its members. -/
@[simp] lemma referencesOfMembers_eq_flatMap (members : List Validator) :
    referencesOfMembers members = members.flatMap references := by
  induction members with
  | nil => rfl
  | cons m rest ih => rw [referencesOfMembers, ih, List.flatMap_cons]

end Validator

end TypedClient
