import TypedClient.Proofs.Validator.Acceptance
import TypedClient.Proofs.Validator.Relabel

/-!
# The order in which schemas are listed

To list named schemas in another order changes the order in which they are declared, and with it
which references are forward.  But that only shows in the marks of the references: the validators
are the same without them (`Schema.unmarked_validator_eq`), and so they make the same of every value
(`Declaration.compileAlike_of_perm`).  Nor does the order decide whether something is degraded, so a
strict compilation succeeds for both lists or for none.
-/

namespace TypedClient

namespace Validator

/-- The validator with no reference marked as deferred. -/
def unmarked : Validator → Validator := relabel (fun _ => false) id

/-- To accept `null` as well marks nothing. -/
lemma unmarked_orNull (notes : Notes) (v : Validator) :
    (Schema.orNull notes v).unmarked = Schema.orNull notes v.unmarked := relabel_orNull notes v

/-- The marks of an array are those of the validator of its items. -/
lemma unmarked_array (items : Validator) : (array items).unmarked = .array items.unmarked := by
  simp only [unmarked, relabel]

/-- The marks of a validator whose value may be absent are its own. -/
lemma unmarked_optional (inner : Validator) :
    (optional inner).unmarked = .optional inner.unmarked := by
  simp only [unmarked, relabel]

/-- The marks of a union are those of its members. -/
lemma unmarked_union (members : List Validator) :
    (union members).unmarked = .union (members.map unmarked) := by
  simp only [unmarked, relabel, relabelMembers_eq_map]

/-- The marks of an object are those of the validators of its fields. -/
lemma unmarked_object (fields : List (Field Validator)) (mode : Mode) :
    (object fields mode).unmarked =
      .object (fields.map fun f => ⟨f.name, f.body.unmarked, f.description⟩) mode := by
  simp only [unmarked, relabel, relabelFields_eq_map]
  rfl

end Validator

/-- Orders with the same names. -/
def SchemaOrder.SameNames (order order' : SchemaOrder) : Prop :=
  ∀ name, order.contains name = order'.contains name

namespace Schema

variable {order order' : SchemaOrder}

/-- A pointer leads to the same name in orders with the same names. -/
lemma target?_eq_of_sameNames (h : order.SameNames order') (pointer : String) :
    order.target? pointer = order'.target? pointer := by
  have hcontains : order.contains = order'.contains := funext h
  rw [SchemaOrder.target?, SchemaOrder.target?, hcontains]

/-- Without marks, the validator of a pointer depends on the names of the order only. -/
lemma unmarked_pointerValidator_eq (h : order.SameNames order') (current pointer : String) :
    (pointerValidator order current pointer).unmarked =
      (pointerValidator order' current pointer).unmarked := by
  rw [pointerValidator, pointerValidator, target?_eq_of_sameNames h]
  cases order'.target? pointer with
  | none => rfl
  | some target => simp only [Validator.unmarked, Validator.relabel]

/-- Without marks, the validator of a part depends on the names of the order only. -/
lemma unmarked_partValidator_eq (h : order.SameNames order') (current : String) (s : Schema) :
    (s.partValidator order current).unmarked = (s.partValidator order' current).unmarked := by
  induction s using Schema.inductionOn with
  | reference n pointer =>
    rw [partValidator, partValidator, Validator.unmarked_orNull, Validator.unmarked_orNull,
      unmarked_pointerValidator_eq h]
  | array n items ih =>
    rw [partValidator, partValidator, Validator.unmarked_orNull, Validator.unmarked_orNull,
      Validator.unmarked_array, Validator.unmarked_array, ih]
  | union n members ih =>
    have hmembers : (members.map (partValidator order current)).map Validator.unmarked =
        (members.map (partValidator order' current)).map Validator.unmarked := by
      rw [List.map_map, List.map_map]
      exact List.map_congr_left ih
    rw [partValidator, partValidator, Validator.unmarked_orNull, Validator.unmarked_orNull,
      Validator.unmarked_union, Validator.unmarked_union, memberValidators_eq_map,
      memberValidators_eq_map, hmembers]
  | primitive n type => cases type <;> rw [partValidator, partValidator]
  | _ => rw [partValidator, partValidator]

/-- Without marks, the validator of a named schema depends on the names of the order only. -/
lemma unmarked_validator_eq (h : order.SameNames order') (current : String) (s : Schema) :
    (s.validator order current).unmarked = (s.validator order' current).unmarked := by
  cases s with
  | object n properties required additional =>
    have hbody : ∀ p : String × Schema,
        (propertyField order current required p).body.unmarked =
          (propertyField order' current required p).body.unmarked := by
      intro p
      have hpart := unmarked_partValidator_eq h current p.2
      simp only [propertyField]
      split
      · exact hpart
      · rw [Validator.unmarked_optional, Validator.unmarked_optional, hpart]
    rw [validator, validator, Validator.unmarked_orNull, Validator.unmarked_orNull,
      Validator.unmarked_object, Validator.unmarked_object, List.map_map, List.map_map]
    simp only [Function.comp_def, hbody]
    rfl
  | array n items =>
    rw [validator, validator, Validator.unmarked_orNull, Validator.unmarked_orNull,
      Validator.unmarked_array, Validator.unmarked_array, unmarked_partValidator_eq h]
  | _ => rfl

end Schema

namespace Declaration

variable {schemas others : Entries Schema}

/-- The orders of lists with the same entries have the same names. -/
lemma sameNames_of_perm (h : schemas.Perm others) :
    (SchemaOrder.ofSchemas schemas).SameNames (.ofSchemas others) := by
  intro name
  have hmem : name ∈ schemas.keys ↔ name ∈ others.keys := (h.map Prod.fst).mem_iff
  rw [Bool.eq_iff_iff, SchemaOrder.contains, SchemaOrder.contains, List.contains_iff_mem,
    List.contains_iff_mem, SchemaOrder.mem_names_ofSchemas, SchemaOrder.mem_names_ofSchemas, hmem]

/-- A list of named schemas is expressed in full if and only if each of its schemas is, whose
validator depends on the order by its marks only. -/
lemma noneDegraded_iff_forall_schema :
    Notice.NoneDegraded (notices schemas (.ofSchemas schemas)) ↔
      ∀ name s, schemas.get? name = some s →
        ¬Validator.Occurs .any (s.validator (.ofSchemas schemas) name).unmarked := by
  simp only [Validator.unmarked, Validator.occurs_any_relabel, noneDegraded_notices_iff]
  constructor
  · intro h name s hs
    obtain ⟨d, hd, -, hvalidator, -⟩ := exists_compiled_decides hs
    rw [← hvalidator]
    exact h d hd
  · intro h d hd
    obtain ⟨s, -, hs, heq⟩ := mem_compiled_iff.1 hd
    rw [heq]
    exact h d.name s hs

/-- Degradations do not depend on the order in which schemas are listed. -/
lemma noneDegraded_iff_of_perm (h : schemas.Perm others) (hnodup : schemas.keys.Nodup) :
    Notice.NoneDegraded (notices schemas (.ofSchemas schemas)) ↔
      Notice.NoneDegraded (notices others (.ofSchemas others)) := by
  rw [noneDegraded_iff_forall_schema, noneDegraded_iff_forall_schema]
  simp only [Entries.get?_eq_of_perm h hnodup,
    Schema.unmarked_validator_eq (sameNames_of_perm h)]

/-- A name is found in the registry of the compiled declarations if and only if a schema has it, and
with it the validator of the schema. -/
lemma get?_ofDeclarations_compiled (schemas : Entries Schema) (name : String) :
    (Registry.ofDeclarations (compiled schemas (.ofSchemas schemas))).get? name =
      (schemas.get? name).map fun s => s.validator (.ofSchemas schemas) name := by
  cases hs : schemas.get? name with
  | some s => exact (Registry.serves_compiled schemas).get?_eq name s hs
  | none =>
    rw [Option.map_none, Option.eq_none_iff_forall_ne_some]
    intro v hv
    obtain ⟨d, hd, heq⟩ := List.mem_map.1 (Entries.mem_of_get?_ofList hv)
    obtain ⟨rfl, -⟩ := Prod.mk.inj heq
    obtain ⟨s, -, hs', -⟩ := mem_compiled_iff.1 hd
    rw [hs'] at hs
    cases hs

/-- The validators of a named schema make the same of a value, in whichever order the schemas are
listed. -/
lemma parse_validator_eq_of_perm (h : schemas.Perm others) (hnodup : schemas.keys.Nodup)
    (s : Schema) (name : String) (v : Json) :
    (s.validator (.ofSchemas schemas) name).parse
        (.ofDeclarations (compiled schemas (.ofSchemas schemas))) v =
      (s.validator (.ofSchemas others) name).parse
        (.ofDeclarations (compiled others (.ofSchemas others))) v := by
  have hvalidator := Schema.unmarked_validator_eq (sameNames_of_perm h)
  -- Without marks, the two registries have the same validators under the same names.
  let common : Registry := Entries.mapValues Validator.unmarked
    (Registry.ofDeclarations (compiled schemas (.ofSchemas schemas)))
  have hschemas : Validator.Relabels (fun _ => false) id
      (.ofDeclarations (compiled schemas (.ofSchemas schemas))) common :=
    fun other => Entries.get?_mapValues _ _ other
  have hothers : Validator.Relabels (fun _ => false) id
      (.ofDeclarations (compiled others (.ofSchemas others))) common := by
    intro other
    rw [hschemas other, get?_ofDeclarations_compiled, get?_ofDeclarations_compiled,
      Entries.get?_eq_of_perm h hnodup, Option.map_map, Option.map_map]
    exact congrArg (Option.map · (others.get? other)) (funext (hvalidator other))
  calc (s.validator (.ofSchemas schemas) name).parse _ v
      = (s.validator (.ofSchemas schemas) name).unmarked.parse common v :=
        (Validator.parseFrom_relabel hschemas [] _ v).symm
    _ = (s.validator (.ofSchemas others) name).unmarked.parse common v := by rw [hvalidator]
    _ = (s.validator (.ofSchemas others) name).parse _ v :=
        Validator.parseFrom_relabel hothers [] _ v

/-- Two lists of named schemas come to the same declarations, but for the marks of references and
the order of the declarations. -/
structure CompileAlike (strict : Bool) (schemas others : Entries Schema) : Prop where
  /-- One list is compiled if and only if the other one is. -/
  compiled_iff :
    (∃ declarations, ofSchemas strict schemas (.ofSchemas schemas) = .ok declarations) ↔
      ∃ declarations', ofSchemas strict others (.ofSchemas others) = .ok declarations'
  /-- In both, each schema has its declaration. -/
  names_perm : ∀ declarations declarations',
    ofSchemas strict schemas (.ofSchemas schemas) = .ok declarations →
    ofSchemas strict others (.ofSchemas others) = .ok declarations' →
    (declarations.map name).Perm schemas.keys ∧ (declarations'.map name).Perm schemas.keys
  /-- Without marks, the validators of one name are equal. -/
  unmarked_eq : ∀ declarations declarations',
    ofSchemas strict schemas (.ofSchemas schemas) = .ok declarations →
    ofSchemas strict others (.ofSchemas others) = .ok declarations' →
    ∀ d ∈ declarations, ∀ d' ∈ declarations', d.name = d'.name →
      d.validator.unmarked = d'.validator.unmarked
  /-- They make the same of every value: both end in one value, or both in one issue. -/
  parse_eq : ∀ declarations declarations',
    ofSchemas strict schemas (.ofSchemas schemas) = .ok declarations →
    ofSchemas strict others (.ofSchemas others) = .ok declarations' →
    ∀ d ∈ declarations, ∀ d' ∈ declarations', d.name = d'.name → ∀ v,
      (∃ w, d.validator.parse (.ofDeclarations declarations) v = .ok w ∧
        d'.validator.parse (.ofDeclarations declarations') v = .ok w) ∨
      ∃ i, d.validator.parse (.ofDeclarations declarations) v = .error (.issue i) ∧
        d'.validator.parse (.ofDeclarations declarations') v = .error (.issue i)

/-- Declarations of one name, compiled of the same entries in two orders, are those of one
schema. -/
lemma exists_schema_of_name_eq (h : schemas.Perm others) (hnodup : schemas.keys.Nodup)
    {d d' : Declaration} (hd : d ∈ compiled schemas (.ofSchemas schemas))
    (hd' : d' ∈ compiled others (.ofSchemas others)) (hname : d.name = d'.name) :
    ∃ s, d.validator = Schema.validator (.ofSchemas schemas) d.name s ∧
      d'.validator = Schema.validator (.ofSchemas others) d.name s := by
  obtain ⟨s, -, hs, heq⟩ := mem_compiled_iff.1 hd
  obtain ⟨s', -, hs', heq'⟩ := mem_compiled_iff.1 hd'
  have hsame : some s = some s' := by
    rw [← hs, ← hs', hname, Entries.get?_eq_of_perm h hnodup]
  obtain rfl := Option.some_inj.1 hsame
  exact ⟨s, by rw [heq], by rw [heq', hname]⟩

/-- The declarations of schemas with different names have the names of the schemas. -/
lemma names_compiled_perm (hnodup : schemas.keys.Nodup) :
    ((compiled schemas (.ofSchemas schemas)).map name).Perm schemas.keys := by
  rw [map_name_compiled fun _ => (SchemaOrder.mem_names_ofSchemas schemas).1]
  exact (List.perm_ext_iff_of_nodup (SchemaOrder.nodup_names_ofSchemas schemas) hnodup).2
    fun _ => SchemaOrder.mem_names_ofSchemas schemas

/-- Named schemas with different names come to the same declarations in whichever order they are
listed, in strict mode as in lenient mode. -/
theorem compileAlike_of_perm (h : schemas.Perm others) (hnodup : schemas.keys.Nodup)
    (strict : Bool) : CompileAlike strict schemas others := by
  constructor
  case compiled_iff =>
    simp only [ofSchemas_eq_ok_iff, exists_eq_left', noneDegraded_iff_of_perm h hnodup]
  case names_perm =>
    intro _ _ hcompiled hcompiled'
    obtain ⟨rfl, -⟩ := ofSchemas_eq_ok_iff.1 hcompiled
    obtain ⟨rfl, -⟩ := ofSchemas_eq_ok_iff.1 hcompiled'
    have hkeys : others.keys.Perm schemas.keys := (h.map Prod.fst).symm
    exact ⟨names_compiled_perm hnodup, (names_compiled_perm (hkeys.nodup_iff.2 hnodup)).trans hkeys⟩
  case unmarked_eq =>
    intro _ _ hcompiled hcompiled' d hd d' hd' hname
    obtain ⟨rfl, -⟩ := ofSchemas_eq_ok_iff.1 hcompiled
    obtain ⟨rfl, -⟩ := ofSchemas_eq_ok_iff.1 hcompiled'
    obtain ⟨s, hvalidator, hvalidator'⟩ := exists_schema_of_name_eq h hnodup hd hd' hname
    rw [hvalidator, hvalidator', Schema.unmarked_validator_eq (sameNames_of_perm h)]
  case parse_eq =>
    intro _ _ hcompiled hcompiled' d hd d' hd' hname v
    obtain ⟨rfl, -⟩ := ofSchemas_eq_ok_iff.1 hcompiled
    obtain ⟨rfl, -⟩ := ofSchemas_eq_ok_iff.1 hcompiled'
    obtain ⟨s, hvalidator, hvalidator'⟩ := exists_schema_of_name_eq h hnodup hd hd' hname
    have hparse := parse_validator_eq_of_perm h hnodup s d.name v
    have hdecides := Schema.decides_validator (Registry.serves_compiled schemas) v s d.name
    rw [hvalidator, hvalidator', ← hparse]
    generalize (s.validator (.ofSchemas schemas) d.name).parse _ v = outcome at hdecides
    cases hdecides with
    | ok _ w => exact Or.inl ⟨w, rfl, rfl⟩
    | issue _ i => exact Or.inr ⟨i, rfl, rfl⟩

/-- Two schemas that refer to each other; the one that is listed first is declared last, and the
reference to it is forward. -/
def ringSchemas : Entries Schema :=
  [("Egg", .array {} (.reference {} "#/components/schemas/Hen")),
    ("Hen", .array {} (.reference {} "#/components/schemas/Egg"))]

/-- It does not matter which of two schemas that refer to each other comes first. -/
theorem ringSchemas_compileAlike :
    ringSchemas.Perm ringSchemas.reverse ∧ ringSchemas.keys.Nodup ∧
      CompileAlike true ringSchemas ringSchemas.reverse :=
  ⟨(List.reverse_perm ringSchemas).symm, by decide,
    compileAlike_of_perm (List.reverse_perm ringSchemas).symm (by decide) true⟩

end Declaration

end TypedClient
