import TypedClient.Proofs.Induction
import TypedClient.Proofs.Schema.Meaning
import TypedClient.Proofs.Validator.Declaration
import TypedClient.Proofs.Validator.Parse

/-!
# Validators accept what their schemas admit

If a registry holds the validators of the named schemas (`Registry.Serves`), then the validator of a
schema decides which values the schema admits (`Schema.decides_validator`), and that of a part which
values the part admits (`Schema.decides_partValidator`).  The registry of the compiled declarations
is such a registry (`Registry.serves_compiled`).

A reference leads to the validator of another schema, and the references may lead in a circle.  But
the validator of a named schema comes to the references in it only at the parts of the value, so the
induction is on the value: what holds of the parts of a value for all schemas holds of the value for
all named schemas, hence for all references, and hence for all parts of schemas.
-/

namespace TypedClient

/-- A registry holds the validator of each named schema, and the order consists of their names. -/
structure Registry.Serves (registry : Registry) (schemas : Entries Schema) (order : SchemaOrder) :
    Prop where
  /-- The order has the names of the schemas. -/
  mem_names_iff : ∀ name, name ∈ order.names ↔ name ∈ schemas.keys
  /-- The registry has their validators. -/
  get?_eq : ∀ name s, schemas.get? name = some s →
    registry.get? name = some (s.validator order name)

/-- A pointer has a target in the order if and only if it leads to a named schema. -/
lemma Registry.Serves.resolve {registry : Registry} {schemas : Entries Schema} {order : SchemaOrder}
    (hserves : registry.Serves schemas order) (pointer : String) :
    (order.target? pointer = none ∧ Schema.resolve? schemas pointer = none) ∨
      ∃ name s, order.target? pointer = some name ∧ schemas.get? name = some s ∧
        Schema.resolve? schemas pointer = some s := by
  unfold SchemaOrder.target? Schema.resolve?
  cases Pointer.schemaName? pointer with
  | none => exact Or.inl ⟨rfl, rfl⟩
  | some name =>
    have hmem : order.contains name = true ↔ ∃ s, schemas.get? name = some s := by
      rw [SchemaOrder.contains, List.contains_iff_mem, hserves.mem_names_iff,
        Entries.exists_get?_iff]
    rw [Option.bind_some]
    cases hs : schemas.get? name with
    | none =>
      have hnot : ¬order.contains name = true := by simp [hmem, hs]
      exact Or.inl ⟨by rw [Option.filter_some, if_neg hnot], rfl⟩
    | some s =>
      have hin : order.contains name = true := hmem.2 ⟨s, hs⟩
      exact Or.inr ⟨name, s, by rw [Option.filter_some, if_pos hin], hs, rfl⟩

namespace Schema

open Validator (Decides Answers FieldDecides)

variable {registry : Registry} {schemas : Entries Schema} {order : SchemaOrder}
  {current : String} {trail : List String}

/-! ## Absence -/

/-- The validator of a named schema is no reference. -/
lemma isReference_validator (s : Schema) : (s.validator order current).isReference = false := by
  have horNull : ∀ (notes : Notes) (v : Validator), v.isReference = false →
      (orNull notes v).isReference = false := by
    intro notes v hv
    unfold orNull
    split
    · rfl
    · exact hv
  cases s with
  | object n properties required additional => exact horNull n _ rfl
  | array n items => exact horNull n _ rfl
  | _ => rfl

/-- The validator of a named schema allows absence if and only if the schema describes no parts. -/
lemma answers_validator (s : Schema) :
    Answers (s.describesParts = false)
      ((s.validator order current).acceptsMissing registry trail) := by
  cases s with
  | object n properties required additional =>
    rw [validator, Validator.acceptsMissing_orNull, Validator.acceptsMissing]
    · exact .no (by simp [describesParts])
    all_goals simp
  | array n items =>
    rw [validator, Validator.acceptsMissing_orNull, Validator.acceptsMissing]
    · exact .no (by simp [describesParts])
    all_goals simp
  | _ =>
    rw [validator, Validator.acceptsMissing]
    · exact .yes rfl
    all_goals simp

/-- The validator of a part allows absence if and only if the part demands nothing. -/
lemma answers_partValidator (hserves : registry.Serves schemas order) (s : Schema) :
    Answers (Unconstrained schemas s)
      ((s.partValidator order current).acceptsMissing registry []) := by
  induction s using Schema.inductionOn with
  | reference n pointer =>
    rw [partValidator, Validator.acceptsMissing_orNull, pointerValidator]
    obtain ⟨htarget, hnone⟩ | ⟨name, s, htarget, hs, hsome⟩ := hserves.resolve pointer
    · simp only [htarget]
      rw [Validator.acceptsMissing]
      exact .yes (.unresolved n hnone)
    · -- The validator of a named schema is no reference, so one step further the answer is found.
      simp only [htarget]
      rw [Validator.acceptsMissing_reference List.not_mem_nil (hserves.get?_eq name s hs)
        (isReference_validator s)]
      exact (answers_validator s).congr (unconstrained_reference_iff hsome).symm
  | union n members ih =>
    rw [partValidator, Validator.acceptsMissing_orNull, memberValidators_eq_map]
    exact (Validator.answers_union ih).congr unconstrained_union_iff.symm
  | unknown n type =>
    rw [partValidator, Validator.acceptsMissing_orNull, Validator.acceptsMissing]
    exact .yes (.unknown n type)
  | primitive n type =>
    cases type <;>
    · rw [partValidator, Validator.acceptsMissing_orNull, Validator.acceptsMissing]
      · exact .no (by rintro ⟨⟩)
      all_goals simp
  | _ =>
    rw [partValidator, Validator.acceptsMissing_orNull, Validator.acceptsMissing]
    · exact .no (by rintro ⟨⟩)
    all_goals simp [Validator.openObject]

/-! ## Values -/

/-- The field of a property decides what the schema demands of the property. -/
lemma fieldDecides_propertyField (hserves : registry.Serves schemas order)
    {required : List String} {members : Entries Json} (p : String × Schema)
    (hpart : ∀ v, members.get? p.1 = some v →
      Decides (PartAdmits schemas p.2 v)
        ((p.2.partValidator order current).parseFrom registry [] v)) :
    FieldDecides registry members (AdmitsProperty schemas required members p)
      (propertyField order current required p) := by
  have hbody : (propertyField order current required p).body =
      if p.1 ∈ required then p.2.partValidator order current
      else .optional (p.2.partValidator order current) := by
    simp [propertyField]
  cases hget : members.get? p.1 with
  | some v =>
    refine Validator.fieldDecides_of_some hget ?_
    refine Decides.congr ?_ (admitsProperty_iff_of_some hget).symm
    rw [hbody]
    split
    · exact hpart v hget
    · rw [Validator.parseFrom]
      exact hpart v hget
  | none =>
    refine Validator.fieldDecides_of_none hget ?_
    rw [hbody]
    split
    · next hrequired =>
      refine (answers_partValidator hserves p.2).congr ?_
      simp [admitsProperty_iff_of_none hget, hrequired]
    · next hrequired =>
      rw [Validator.acceptsMissing]
      exact .yes ((admitsProperty_iff_of_none hget).2 (Or.inl hrequired))

/-- The validator of a named schema decides whether the schema admits a value, if the validators of
parts decide whether the parts admit the parts of the value. -/
lemma decides_validator_of_parts (hserves : registry.Serves schemas order) {value : Json}
    (hparts : ∀ v ∈ value.parts, ∀ s current,
      Decides (PartAdmits schemas s v) ((s.partValidator order current).parseFrom registry [] v))
    (s : Schema) (current : String) (trail : List String) :
    Decides (Admits schemas s value)
      ((s.validator order current).parseFrom registry trail value) := by
  cases s with
  | object n properties required additional =>
    rw [validator]
    refine (Validator.decides_orNull n
      (Validator.decides_object (P := AdmitsProperty schemas required) ?_)).congr ?_
    · rintro members rfl p -
      exact fieldDecides_propertyField hserves p fun v hv =>
        hparts v (Json.mem_parts_of_get? hv) p.2 current
    · rw [admits_object_iff]
      have hmode : (if additional = some false then Mode.strict else Mode.strip) = Mode.strict ↔
          additional = some false := by
        split <;> simp [*]
      rw [hmode]
      rfl
  | array n items =>
    rw [validator]
    refine (Validator.decides_orNull n (Validator.decides_array ?_)).congr admits_array_iff.symm
    rintro values rfl v hv
    exact hparts v hv items current
  | _ =>
    rw [validator]
    · exact Validator.decides_any (.partless rfl)
    all_goals simp

/-- The validator of a part decides whether the part admits a value, if those of named schemas do
and those of parts do for the parts of the value. -/
lemma decides_partValidator_of_parts (hserves : registry.Serves schemas order) {value : Json}
    (hnamed : ∀ s current trail, Decides (Admits schemas s value)
      ((s.validator order current).parseFrom registry trail value))
    (hparts : ∀ v ∈ value.parts, ∀ s current,
      Decides (PartAdmits schemas s v) ((s.partValidator order current).parseFrom registry [] v))
    (s : Schema) (current : String) :
    Decides (PartAdmits schemas s value)
      ((s.partValidator order current).parseFrom registry [] value) := by
  induction s using Schema.inductionOn with
  | reference n pointer =>
    rw [partValidator, pointerValidator]
    obtain ⟨htarget, hnone⟩ | ⟨name, s, htarget, hs, hsome⟩ := hserves.resolve pointer
    · simp only [htarget]
      exact (Validator.decides_orNull n (Validator.decides_any trivial)).congr
        (by simp [PartAdmits.unresolved n hnone])
    · simp only [htarget]
      refine (Validator.decides_orNull n ?_).congr (partAdmits_reference_iff hsome).symm
      rw [Validator.parseFrom_reference List.not_mem_nil (hserves.get?_eq name s hs)]
      exact hnamed s name _
  | object n properties required additional ih =>
    rw [partValidator]
    exact (Validator.decides_orNull n Validator.decides_openObject).congr partAdmits_object_iff.symm
  | freeObject n required additional =>
    rw [partValidator]
    exact (Validator.decides_orNull n Validator.decides_openObject).congr
      partAdmits_freeObject_iff.symm
  | array n items ih =>
    rw [partValidator]
    refine (Validator.decides_orNull n (Validator.decides_array ?_)).congr partAdmits_array_iff.symm
    rintro values rfl v hv
    exact hparts v hv items current
  | freeArray n =>
    rw [partValidator]
    refine (Validator.decides_orNull n
      (Validator.decides_array (P := fun _ => True) ?_)).congr ?_
    · exact fun values _ v _ => Validator.decides_any trivial
    · rw [partAdmits_freeArray_iff]
      simp
  | primitive n type =>
    have htype : type.Contains value ↔ value.typeName = type.valueTypeName :=
      Primitive.contains_iff
    cases type <;>
    · rw [partValidator]
      refine (Validator.decides_orNull n ?_).congr partAdmits_primitive_iff.symm
      rw [Validator.parseFrom]
      exact (Validator.decides_expectType _).congr htype.symm
  | union n members ih =>
    rw [partValidator, memberValidators_eq_map]
    exact (Validator.decides_orNull n (Validator.decides_union ih)).congr partAdmits_union_iff.symm
  | unknown n type =>
    rw [partValidator]
    exact (Validator.decides_orNull n (Validator.decides_any trivial)).congr
      (by simp [PartAdmits.unknown n type value])

/-- The validator of a part decides whether the part admits a value. -/
lemma decides_partValidator (hserves : registry.Serves schemas order) (value : Json) (s : Schema)
    (current : String) :
    Decides (PartAdmits schemas s value)
      ((s.partValidator order current).parseFrom registry [] value) := by
  induction value using Json.inductionOnParts generalizing s current with
  | step value ih =>
    -- A reference hands the same value to a named schema, so the named schemas come first.
    exact decides_partValidator_of_parts hserves (decides_validator_of_parts hserves ih) ih s
      current

/-- The validator of a named schema decides whether the schema admits a value. -/
lemma decides_validator (hserves : registry.Serves schemas order) (value : Json) (s : Schema)
    (current : String) :
    Decides (Admits schemas s value)
      ((s.validator order current).parse registry value) :=
  decides_validator_of_parts hserves (fun v _ => decides_partValidator hserves v) s current []

end Schema

/-! ## Compiled declarations -/

/-- The compiled declarations make a registry that holds the validators of the named schemas. -/
lemma Registry.serves_compiled (schemas : Entries Schema) :
    (ofDeclarations (Declaration.compiled schemas (.ofSchemas schemas))).Serves schemas
      (.ofSchemas schemas) := by
  have hkeys : ∀ name ∈ (SchemaOrder.ofSchemas schemas).names, name ∈ schemas.keys :=
    fun name => (SchemaOrder.mem_names_ofSchemas schemas).1
  constructor
  case mem_names_iff => exact fun name => SchemaOrder.mem_names_ofSchemas schemas
  case get?_eq =>
    intro name s hs
    have hname : name ∈ (SchemaOrder.ofSchemas schemas).names :=
      (SchemaOrder.mem_names_ofSchemas schemas).2 (Entries.mem_keys_of_get? hs)
    obtain ⟨d, hd, rfl, hvalidator⟩ := Declaration.exists_mem_compiled hname hs
    rw [← hvalidator]
    refine Registry.get?_ofDeclarations ?_ hd
    rw [Declaration.map_name_compiled hkeys]
    exact SchemaOrder.nodup_names_ofSchemas schemas

/-- Every named schema has a compiled declaration, which decides what the schema admits. -/
lemma Declaration.exists_compiled_decides {schemas : Entries Schema} {name : String} {s : Schema}
    (hs : schemas.get? name = some s) :
    ∃ d ∈ compiled schemas (.ofSchemas schemas), d.name = name ∧
      d.validator = s.validator (.ofSchemas schemas) name ∧
      ∀ v, Validator.Decides (s.Admits schemas v)
        (d.validator.parse (Registry.ofDeclarations (compiled schemas (.ofSchemas schemas))) v) := by
  have hname : name ∈ (SchemaOrder.ofSchemas schemas).names :=
    (SchemaOrder.mem_names_ofSchemas schemas).2 (Entries.mem_keys_of_get? hs)
  obtain ⟨d, hd, hd', hvalidator⟩ := exists_mem_compiled hname hs
  refine ⟨d, hd, hd', hvalidator, fun v => ?_⟩
  rw [hvalidator]
  exact Schema.decides_validator (Registry.serves_compiled schemas) v s name

end TypedClient
