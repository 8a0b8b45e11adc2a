import TypedClient.Proofs.Induction
import TypedClient.Proofs.Validator.Agreement
import TypedClient.Proofs.Validator.Occurrence
import TypedClient.Proofs.Validator.Parse

/-!
# Labels do not matter

References bear a mark that tells whether they are deferred, and fields bear descriptions.  Both are
labels for the code that is written of a validator, and `Validator.relabel` changes them.  What a
validator makes of a value does not depend on its labels, nor on those in the registry
(`Validator.parseFrom_relabel`).

The same follows for whether a member may be absent, and where `any` occurs.
-/

namespace TypedClient.Validator

section Relabel

variable (mark : Bool → Bool) (describe : Option String → Option String)

mutual

/-- The validator with the marks of its references and the descriptions of its fields changed. -/
def relabel : Validator → Validator
  | .object fields mode => .object (relabelFields fields) mode
  | .array items => .array items.relabel
  | .union members => .union (relabelMembers members)
  | .nullable inner => .nullable inner.relabel
  | .optional inner => .optional inner.relabel
  | .reference name deferred => .reference name (mark deferred)
  | v => v

/-- The fields with the labels in them changed. -/
def relabelFields : List (Field Validator) → List (Field Validator)
  | [] => []
  | ⟨name, v, description⟩ :: rest =>
    ⟨name, v.relabel, describe description⟩ :: relabelFields rest

/-- The validators of a list with the labels in them changed. -/
def relabelMembers : List Validator → List Validator
  | [] => []
  | v :: rest => v.relabel :: relabelMembers rest

end

/-- The field with the labels in it changed. -/
def relabelField (field : Field Validator) : Field Validator where
  name := field.name
  body := field.body.relabel mark describe
  description := describe field.description

end Relabel

variable {mark : Bool → Bool} {describe : Option String → Option String}

/-- The fields of a list are relabelled one by one. -/
@[simp] lemma relabelFields_eq_map (fields : List (Field Validator)) :
    relabelFields mark describe fields = fields.map (relabelField mark describe) := by
  induction fields with
  | nil => rfl
  | cons f rest ih => rw [relabelFields, ih, List.map_cons, relabelField]

/-- The validators of a list are relabelled one by one. -/
@[simp] lemma relabelMembers_eq_map (members : List Validator) :
    relabelMembers mark describe members = members.map (relabel mark describe) := by
  induction members with
  | nil => rfl
  | cons m rest ih => rw [relabelMembers, ih, List.map_cons]

/-- A validator stays what it is, a reference or none. -/
@[simp] lemma isReference_relabel (v : Validator) :
    (v.relabel mark describe).isReference = v.isReference := by
  cases v <;> simp [relabel, isReference]

/-- To accept `null` as well bears no label. -/
@[simp] lemma relabel_orNull (notes : Notes) (v : Validator) :
    (Schema.orNull notes v).relabel mark describe =
      Schema.orNull notes (v.relabel mark describe) := by
  unfold Schema.orNull
  split
  · rw [relabel]
  · rfl

/-- `any` occurs where it occurred before. -/
@[simp] lemma occurs_any_relabel (v : Validator) :
    Occurs .any (v.relabel mark describe) ↔ Occurs .any v := by
  induction v using Validator.inductionOn with
  | object fields mode ih =>
    simp only [relabel, relabelFields_eq_map, occurs_any_object, List.mem_map,
      exists_exists_and_eq_and, relabelField]
    exact exists_congr fun f => and_congr_right fun hf => ih f hf
  | array items ih => simpa [relabel] using ih
  | union members ih =>
    simp only [relabel, relabelMembers_eq_map, occurs_any_union, List.mem_map,
      exists_exists_and_eq_and]
    exact exists_congr fun m => and_congr_right fun hm => ih m hm
  | nullable inner ih => simpa [relabel] using ih
  | optional inner ih => simpa [relabel] using ih
  | _ => simp [relabel]

/-! ## What is made of a value -/

variable {registry registry' : Registry}

/-- One registry holds the validators of another one under the same names, relabelled. -/
def Relabels (mark : Bool → Bool) (describe : Option String → Option String)
    (registry registry' : Registry) : Prop :=
  ∀ name, registry'.get? name = (registry.get? name).map (relabel mark describe)

/-- Whether a member may be absent does not depend on labels.  The induction is on the names that
are not on the trail, since a reference puts one there, and then on the validator. -/
lemma acceptsMissing_relabel (h : Relabels mark describe registry registry') (trail : List String)
    (v : Validator) : (v.relabel mark describe).acceptsMissing registry' trail =
      v.acceptsMissing registry trail := by
  induction hlength : (Registry.offTrail registry trail).length using Nat.strongRecOn
    generalizing trail v with
  | ind length ih =>
    subst hlength
    induction v using Validator.inductionOn with
    | nullable inner ihinner => rw [relabel, acceptsMissing, acceptsMissing, ihinner]
    | union members ihmembers =>
      rw [relabel, relabelMembers_eq_map, acceptsMissing, acceptsMissing]
      simpa using someAcceptsMissing_congr id (relabel mark describe) ihmembers
    | reference name deferred =>
      rw [relabel]
      by_cases htrail : name ∈ trail
      · rw [acceptsMissing, acceptsMissing, dif_pos htrail, dif_pos htrail]
      · rw [acceptsMissing_reference_eq htrail, acceptsMissing_reference_eq htrail, h name]
        cases htarget : registry.get? name with
        | none => rfl
        | some target =>
          have hless := Registry.length_offTrail_cons_lt registry
            (Entries.mem_keys_of_get? htarget) htrail
          have hrest := ih _ hless (name :: trail) target rfl
          simp only [Option.map_some, isReference_relabel, hrest]
    | _ => simp [relabel, acceptsMissing]

/-- What a validator makes of a value does not depend on labels.  The induction is on the value,
then on the names that are not on the trail, and then on the validator, as the validator is
applied. -/
lemma parseFrom_relabel (h : Relabels mark describe registry registry') (trail : List String)
    (v : Validator) (value : Json) : (v.relabel mark describe).parseFrom registry' trail value =
      v.parseFrom registry trail value := by
  induction value using Json.inductionOnParts generalizing trail v with
  | step value ihparts =>
  induction hlength : (Registry.offTrail registry trail).length using Nat.strongRecOn
    generalizing trail v with
  | ind length ih =>
  subst hlength
  induction v using Validator.inductionOn with
  | string => simp only [relabel, parseFrom]
  | number => simp only [relabel, parseFrom]
  | boolean => simp only [relabel, parseFrom]
  | any => simp only [relabel, parseFrom]
  | object fields mode ihfields =>
    rw [relabel, relabelFields_eq_map]
    cases value with
    | object members =>
      have hpresent : ∀ f ∈ fields, ∀ v, Entries.get? members f.name = some v →
          (f.body.relabel mark describe).parseFrom registry' [] v =
            f.body.parseFrom registry [] v :=
        fun f _ v hv => ihparts v (Json.mem_parts_of_get? hv) [] f.body
      have hfields := parseFields_congr registry registry' id (relabelField mark describe)
        (fun _ _ => rfl) (fun _ _ => rfl) hpresent
        (fun f _ _ => acceptsMissing_relabel h [] f.body) []
      have hextra : undeclared (fields.map (relabelField mark describe)) members =
          undeclared fields members := by
        simp only [undeclared, List.any_map]
        rfl
      rw [List.map_id] at hfields
      rw [parseFrom, parseFrom, hfields, hextra]
    | _ => simp [parseFrom]
  | array items ihitems =>
    rw [relabel]
    cases value with
    | array values =>
      have hitem : ∀ v ∈ values, (items.relabel mark describe).parseFrom registry' [] v =
          items.parseFrom registry [] v := fun v hv => ihparts v hv [] items
      have hitems := parseItems_congr hitem 0
      rw [parseFrom, parseFrom, hitems]
    | _ => simp [parseFrom]
  | union members ihmembers =>
    rw [relabel, relabelMembers_eq_map, parseFrom, parseFrom]
    simpa using parseFirst_congr id (relabel mark describe) ihmembers
  | nullable inner ihinner =>
    rw [relabel]
    by_cases hnull : value = .null
    · subst hnull
      rw [parseFrom, parseFrom]
    · rw [parseFrom, parseFrom, ihinner]
      · exact hnull
      · exact hnull
  | optional inner ihinner => rw [relabel, parseFrom, parseFrom, ihinner]
  | reference name deferred =>
    rw [relabel]
    by_cases htrail : name ∈ trail
    · rw [parseFrom, parseFrom, dif_pos htrail, dif_pos htrail]
    · rw [parseFrom_reference_eq htrail, parseFrom_reference_eq htrail, h name]
      cases htarget : registry.get? name with
      | none => rfl
      | some target =>
        have hless := Registry.length_offTrail_cons_lt registry
          (Entries.mem_keys_of_get? htarget) htrail
        exact ih _ hless (name :: trail) target rfl

end TypedClient.Validator
