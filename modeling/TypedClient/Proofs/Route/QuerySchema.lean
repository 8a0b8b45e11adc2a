import TypedClient.Proofs.Entries.Merge
import TypedClient.Proofs.Validator.Accepts
import TypedClient.Proofs.Validator.Declaration
import TypedClient.Route.OfDocument

/-!
# The schema of a query

The parameters that the operations of a path share are followed by those of the operation, and of
all these the ones that are carried in the query are merged by name.  What comes of it is told by
positions (`Document.MergesQuery`): a name stands where a parameter first has it, and everything
else about it, whether it is required included, is said by the last parameter that has it.
Parameters that are carried elsewhere leave no trace, whatever their names are.

The schema is compiled like that of any object, so whether a query may lack a member is a matter of
the last parameter, too.
-/

namespace TypedClient

open Entries (IsFirst IsLast YieldsAt)

/-! ## What is said about a query -/

/-- The parameter at a position, where those of the path come first and then those of the operation,
is carried in the query and has a certain name; if it is a reference, the parameter that it leads to
counts. -/
def Document.QueryParameterAt (document : Document) (item : PathItem) (operation : Operation)
    (i : Nat) (name : String) (q : Parameter) : Prop :=
  ∃ p, (item.parameters ++ operation.parameters)[i]? = some p ∧ document.resolve? p = some q ∧
    q.location = .query ∧ q.name = name

/-- The schema that a parameter gives; if it gives none, the schema without a type. -/
def Parameter.givenSchema (q : Parameter) : Schema := q.schema.getD (.unknown {} none)

/-- A schema is the one that a parameter gives, under the description of the parameter if there is
one. -/
structure Parameter.Describes (q : Parameter) (s : Schema) : Prop where
  /-- The shape is that of the schema that is given. -/
  shape_eq : s.withNotes {} = q.givenSchema.withNotes {}
  /-- `null` is accepted if the schema that is given says so. -/
  nullable_eq : s.nullable = q.givenSchema.nullable
  /-- The description of the parameter takes precedence over that of the schema. -/
  description_eq : s.description = q.description.or q.givenSchema.description

namespace Document

variable (document : Document) (item : PathItem) (operation : Operation)

/-- Properties and names of required properties are those that the query parameters of an operation
call for. -/
structure IsQuerySchema (properties : Entries Schema) (required : List String) : Prop where
  /-- No name is repeated. -/
  nodup_keys : properties.keys.Nodup
  /-- The names are those of the query parameters. -/
  mem_keys_iff : ∀ name,
    name ∈ properties.keys ↔ ∃ i q, document.QueryParameterAt item operation i name q
  /-- The names stand in the order in which they come first. -/
  pairwise_keys : properties.keys.Pairwise fun a b => ∃ i j,
    IsFirst (document.QueryParameterAt item operation) a i ∧
      IsFirst (document.QueryParameterAt item operation) b j ∧ i < j
  /-- The last parameter of a name gives the property, and says whether it is required. -/
  exists_last : ∀ name ∈ properties.keys, ∃ q s,
    IsLast (document.QueryParameterAt item operation) name q ∧ properties.get? name = some s ∧
      q.Describes s ∧ (name ∈ required ↔ q.required = true)
  /-- The names of required properties stand in the order of the properties. -/
  required_sublist : required.Sublist properties.keys

end Document

/-- An object validator accepts an object without a certain member if a condition holds and all
fields for other members accept the object, and only then. -/
def Validator.AllowsAbsence (registry : Registry) (fields : List (Field Validator)) (name : String)
    (condition : Prop) : Prop :=
  ∀ members : Entries Json, members.get? name = none →
    ((object fields .strip).Accepts registry (.object members) ↔
      condition ∧ ∀ field ∈ fields, field.name ≠ name → FieldAccepts registry members field)

/-- The schema of the query of an operation merges its query parameters. -/
structure Document.MergesQuery (document : Document) (item : PathItem) (operation : Operation) :
    Prop where
  /-- There is a schema if there is a query parameter. -/
  exists_iff : (∃ s, querySchema? (document.queryParameters item operation) = some s) ↔
    ∃ i name q, document.QueryParameterAt item operation i name q
  /-- The schema is that of an object, with the properties that the query parameters call for. -/
  isQuerySchema : ∀ s, querySchema? (document.queryParameters item operation) = some s →
    ∃ properties required, s = .object {} properties required none ∧
      document.IsQuerySchema item operation properties required
  /-- A parameter that is carried elsewhere, or leads nowhere, makes no difference, whatever its
  name is and wherever it stands. -/
  elsewhere : ∀ before p after, item.parameters ++ operation.parameters = before ++ p :: after →
    (∀ q, document.resolve? p = some q → q.location ≠ .query) →
    ∀ (item' : PathItem) (operation' : Operation),
      item'.parameters ++ operation'.parameters = before ++ after →
        querySchema? (document.queryParameters item' operation') =
          querySchema? (document.queryParameters item operation)
  /-- The schema has a validator. -/
  compiles : ∀ s, querySchema? (document.queryParameters item operation) = some s →
    ∀ order current, ∃ v, (Compilation.ofSchema order current s).result false = .ok v
  /-- The validator, where there is one, has a field for each property.  A query may lack a member
  if the last parameter of this name is not required, or the validator of the property allows
  absence. -/
  absence : ∀ (properties : Entries Schema) required,
    querySchema? (document.queryParameters item operation) =
      some (.object {} properties required none) →
    ∀ order current strict v,
      (Compilation.ofSchema order current (.object {} properties required none)).result strict =
        .ok v →
      ∃ fields, v = .object fields .strip ∧ fields.map Field.name = properties.keys ∧
        ∀ name q, IsLast (document.QueryParameterAt item operation) name q →
          ∃ property part, properties.get? name = some property ∧
            (Compilation.ofPart order current property).result strict = .ok part ∧
            ∀ registry, Validator.AllowsAbsence registry fields name
              (q.required = false ∨ part.mayBeAbsent registry = some true)

/-! ## The parameters that are merged -/

/-- The name that a parameter has in the query, with the parameter that it stands for. -/
def Document.queryPair? (document : Document) (p : Parameter) : Option (String × Parameter) :=
  ((document.resolve? p).filter fun q => q.location = .query).map fun q => (q.name, q)

namespace Document

variable {document : Document} {item : PathItem} {operation : Operation} {p q : Parameter}
  {name : String}

/-- What a parameter stands for in the query. -/
lemma queryPair?_eq_some_iff :
    document.queryPair? p = some (name, q) ↔
      document.resolve? p = some q ∧ q.location = .query ∧ q.name = name := by
  rw [queryPair?, Option.map_eq_some_iff]
  constructor
  · rintro ⟨r, hr, hpair⟩
    obtain ⟨hresolve, hquery⟩ := Option.filter_eq_some_iff.1 hr
    obtain ⟨hname, rfl⟩ := Prod.mk.inj hpair
    exact ⟨hresolve, of_decide_eq_true hquery, hname⟩
  · rintro ⟨hresolve, hquery, rfl⟩
    exact ⟨q, Option.filter_eq_some_iff.2 ⟨hresolve, decide_eq_true hquery⟩, rfl⟩

/-- A parameter that is carried elsewhere stands for nothing in the query. -/
lemma queryPair?_eq_none (h : ∀ q, document.resolve? p = some q → q.location ≠ .query) :
    document.queryPair? p = none := by
  rw [Option.eq_none_iff_forall_ne_some]
  rintro ⟨name, q⟩ hentry
  obtain ⟨hresolve, hquery, -⟩ := queryPair?_eq_some_iff.1 hentry
  exact h q hresolve hquery

/-- The query parameters, position by position. -/
lemma queryParameterAt_eq :
    document.QueryParameterAt item operation =
      YieldsAt document.queryPair? (item.parameters ++ operation.parameters) := by
  funext i name q
  simp only [QueryParameterAt, YieldsAt, queryPair?_eq_some_iff]

/-- The query parameters are put together in the order of their positions. -/
lemma queryParameters_eq :
    document.queryParameters item operation =
      .ofList ((item.parameters ++ operation.parameters).filterMap document.queryPair?) := by
  have hentries : ∀ parameters : List Parameter,
      ((parameters.filterMap document.resolve?).filter fun q => q.location = .query).map
        (fun q => (q.name, q)) = parameters.filterMap document.queryPair? := by
    intro parameters
    rw [← List.filterMap_eq_map, ← List.filterMap_eq_filter, List.filterMap_filterMap,
      List.filterMap_filterMap]
    congr 1
    funext p
    unfold queryPair?
    cases document.resolve? p with
    | none => rfl
    | some q => by_cases hquery : q.location = .query <;> simp [Option.guard, Option.filter, hquery]
  rw [queryParameters, hentries]

/-- The last parameter of a name is the one that is found under it. -/
lemma get?_queryParameters_eq_some_iff :
    (document.queryParameters item operation).get? name = some q ↔
      IsLast (document.QueryParameterAt item operation) name q := by
  rw [queryParameters_eq, Entries.get?_ofList_eq_some_iff, queryParameterAt_eq]

/-- The names are those of the query parameters. -/
lemma mem_keys_queryParameters_iff :
    name ∈ (document.queryParameters item operation).keys ↔
      ∃ i q, document.QueryParameterAt item operation i name q := by
  rw [queryParameters_eq, Entries.mem_keys_ofList_iff, queryParameterAt_eq]

/-- The names stand in the order in which they come first. -/
lemma pairwise_keys_queryParameters :
    (document.queryParameters item operation).keys.Pairwise fun a b => ∃ i j,
      IsFirst (document.QueryParameterAt item operation) a i ∧
        IsFirst (document.QueryParameterAt item operation) b j ∧ i < j := by
  rw [queryParameters_eq, queryParameterAt_eq]
  exact Entries.pairwise_keys_ofList

/-- No name is repeated. -/
lemma nodup_keys_queryParameters : (document.queryParameters item operation).keys.Nodup := by
  rw [queryParameters_eq]
  exact Entries.nodup_keys_ofList _

/-- A parameter that is carried elsewhere can be left out. -/
lemma queryParameters_eq_of_elsewhere {before after : List Parameter}
    (hparameters : item.parameters ++ operation.parameters = before ++ p :: after)
    (helsewhere : ∀ q, document.resolve? p = some q → q.location ≠ .query) {item' : PathItem}
    {operation' : Operation}
    (hothers : item'.parameters ++ operation'.parameters = before ++ after) :
    document.queryParameters item' operation' = document.queryParameters item operation := by
  rw [queryParameters_eq, queryParameters_eq, hparameters, hothers, List.filterMap_append,
    List.filterMap_append, List.filterMap_cons_none (queryPair?_eq_none helsewhere)]

end Document

/-! ## The schema -/

/-- The last notes that a schema is given count. -/
lemma Schema.withNotes_withNotes (n n' : Notes) (s : Schema) :
    (s.withNotes n).withNotes n' = s.withNotes n' := by
  cases s <;> rfl

/-- A parameter describes its values by its schema and its description. -/
lemma Parameter.describes_valueSchema (q : Parameter) : q.Describes q.valueSchema := by
  unfold valueSchema
  cases hdescription : q.description with
  | none => exact ⟨rfl, rfl, by rw [hdescription]; rfl⟩
  | some text =>
    have hnotes : (q.givenSchema.describedAs text).notes =
        { q.givenSchema.notes with description := some text } :=
      Schema.notes_withNotes _ _
    have hnullable : (q.givenSchema.describedAs text).nullable = q.givenSchema.nullable := by
      rw [Schema.nullable, hnotes]
      rfl
    have htext : (q.givenSchema.describedAs text).description = some text := by
      rw [Schema.description, hnotes]
    exact ⟨Schema.withNotes_withNotes _ _ _, hnullable, by rw [hdescription]; exact htext⟩

/-- There is a schema if and only if there is a parameter. -/
lemma querySchema?_eq_some_iff {parameters : Entries Parameter} {s : Schema} :
    querySchema? parameters = some s ↔
      parameters ≠ [] ∧
        s = .object {} (parameters.mapValues Parameter.valueSchema)
          ((parameters.filter fun e => e.2.required).map Prod.fst) none := by
  unfold querySchema?
  split
  · next hempty => simp [List.isEmpty_iff.1 hempty]
  · next hempty => simp [mt List.isEmpty_iff.2 hempty, eq_comm]

/-- The names of the required parameters. -/
lemma mem_requiredNames_iff {parameters : Entries Parameter} {name : String} {q : Parameter}
    (hnodup : parameters.keys.Nodup) (hq : parameters.get? name = some q) :
    name ∈ (parameters.filter fun e => e.2.required).map Prod.fst ↔ q.required = true := by
  constructor
  · intro h
    obtain ⟨e, he, rfl⟩ := List.mem_map.1 h
    obtain ⟨he, hrequired⟩ := List.mem_filter.1 he
    obtain rfl : q = e.2 := Option.some_inj.1 (hq.symm.trans (Entries.get?_of_mem hnodup he))
    exact hrequired
  · intro h
    exact List.mem_map_of_mem (List.mem_filter.2 ⟨Entries.mem_of_get? hq, h⟩)

section

variable {document : Document} {item : PathItem} {operation : Operation}

/-- The merged query parameters give the properties and the names of the required ones. -/
lemma Document.isQuerySchema_queryParameters :
    document.IsQuerySchema item operation
      ((document.queryParameters item operation).mapValues Parameter.valueSchema)
      (((document.queryParameters item operation).filter fun e => e.2.required).map Prod.fst) := by
  constructor
  case nodup_keys =>
    rw [Entries.keys_mapValues]
    exact nodup_keys_queryParameters
  case mem_keys_iff =>
    intro name
    rw [Entries.keys_mapValues]
    exact mem_keys_queryParameters_iff
  case pairwise_keys =>
    rw [Entries.keys_mapValues]
    exact pairwise_keys_queryParameters
  case exists_last =>
    intro name hname
    rw [Entries.keys_mapValues] at hname
    obtain ⟨q, hq⟩ := Entries.exists_get?_iff.2 hname
    refine ⟨q, q.valueSchema, get?_queryParameters_eq_some_iff.1 hq, ?_, q.describes_valueSchema,
      mem_requiredNames_iff nodup_keys_queryParameters hq⟩
    rw [Entries.get?_mapValues, hq, Option.map_some]
  case required_sublist =>
    rw [Entries.keys_mapValues]
    exact List.filter_sublist.map Prod.fst

/-- Which schema the query parameters of an operation give. -/
lemma Document.querySchema?_queryParameters_eq_some_iff {s : Schema} :
    querySchema? (document.queryParameters item operation) = some s ↔
      (∃ i name q, document.QueryParameterAt item operation i name q) ∧
        s = .object {} ((document.queryParameters item operation).mapValues Parameter.valueSchema)
          (((document.queryParameters item operation).filter fun e => e.2.required).map Prod.fst)
          none := by
  have hsome : document.queryParameters item operation ≠ [] ↔
      ∃ i name q, document.QueryParameterAt item operation i name q := by
    constructor
    · intro h
      obtain ⟨e, he⟩ := List.exists_mem_of_ne_nil _ h
      obtain ⟨i, q, hat⟩ := mem_keys_queryParameters_iff.1 (List.mem_map_of_mem he)
      exact ⟨i, e.1, q, hat⟩
    · rintro ⟨i, name, q, hat⟩ hnil
      have hname := mem_keys_queryParameters_iff.2 ⟨i, q, hat⟩
      rw [hnil] at hname
      cases hname
  rw [querySchema?_eq_some_iff, hsome]

end

/-! ## Absence -/

namespace Validator

variable {registry : Registry} {order : SchemaOrder} {current : String}
  {properties : Entries Schema} {required : List String} {name : String} {property : Schema}

/-- The field of a property allows absence if the property is not required, or its validator allows
absence. -/
lemma mayBeAbsent_propertyField_iff :
    (Schema.propertyField order current required (name, property)).body.mayBeAbsent registry =
        some true ↔
      name ∉ required ∨
        (property.partValidator order current).mayBeAbsent registry = some true := by
  unfold Schema.propertyField
  dsimp only
  split
  · next h =>
    rw [List.contains_iff_mem] at h
    exact (or_iff_right (not_not_intro h)).symm
  · next h =>
    rw [List.contains_iff_mem] at h
    refine iff_of_true ?_ (Or.inl h)
    rw [mayBeAbsent, acceptsMissing]

/-- Whether an object may lack a member is up to the field of the property with its name. -/
lemma allowsAbsence_of_get? (hnodup : properties.keys.Nodup)
    (hproperty : properties.get? name = some property) :
    AllowsAbsence registry (properties.map (Schema.propertyField order current required)) name
      (name ∉ required ∨
        (property.partValidator order current).mayBeAbsent registry = some true) := by
  intro members hnone
  rw [accepts_strip_iff, ← mayBeAbsent_propertyField_iff]
  constructor
  · intro h
    have hfield := h _ (List.mem_map_of_mem (Entries.mem_of_get? hproperty))
    exact ⟨hfield.2 hnone, fun field hmem _ => h field hmem⟩
  · rintro ⟨habsent, hothers⟩ field hfield
    by_cases hname : field.name = name
    · -- The names are different, so this is the field of the property.
      obtain ⟨⟨key, s⟩, hmem, rfl⟩ := List.mem_map.1 hfield
      obtain rfl : key = name := hname
      obtain rfl : property = s :=
        Option.some_inj.1 (hproperty.symm.trans (Entries.get?_of_mem hnodup hmem))
      refine ⟨fun value hvalue => ?_, fun _ => habsent⟩
      cases hvalue.symm.trans hnone
    · exact hothers field hfield hname

end Validator

/-- If the compilation of an object goes through, so does that of each property. -/
lemma Compilation.result_ofPart_of_mem {strict : Bool} {order : SchemaOrder} {current : String}
    {properties : Entries Schema} {required : List String} {v : Validator} {e : String × Schema}
    (he : e ∈ properties)
    (h : (ofSchema order current (.object {} properties required none)).result strict = .ok v) :
    (ofPart order current e.2).result strict = .ok (e.2.partValidator order current) := by
  obtain ⟨-, hnotices⟩ := Notice.guard_eq_ok_iff.1 h
  refine Notice.guard_eq_ok_iff.2 ⟨rfl, fun hstrict d hd => ?_⟩
  exact hnotices hstrict d (List.mem_flatMap.2 ⟨e, he, hd⟩)

/-! ## The query of an operation -/

/-- The schema of the query of an operation merges its query parameters. -/
theorem Document.mergesQuery (document : Document) (item : PathItem) (operation : Operation) :
    document.MergesQuery item operation := by
  constructor
  case exists_iff =>
    simp [querySchema?_queryParameters_eq_some_iff]
  case isQuerySchema =>
    intro s hs
    obtain ⟨-, rfl⟩ := querySchema?_queryParameters_eq_some_iff.1 hs
    exact ⟨_, _, rfl, isQuerySchema_queryParameters⟩
  case elsewhere =>
    intro before p after hparameters helsewhere item' operation' hothers
    rw [queryParameters_eq_of_elsewhere hparameters helsewhere hothers]
  case compiles =>
    intro s _ order current
    exact ⟨_, Notice.guard_eq_ok_iff.2 ⟨rfl, by simp⟩⟩
  case absence =>
    intro properties required hs order current strict v hv
    have hschema : document.IsQuerySchema item operation properties required := by
      obtain ⟨-, hobject⟩ := querySchema?_queryParameters_eq_some_iff.1 hs
      obtain ⟨-, rfl, rfl, -⟩ := Schema.object.inj hobject
      exact isQuerySchema_queryParameters
    obtain ⟨rfl, -⟩ := Notice.guard_eq_ok_iff.1 hv
    refine ⟨_, rfl, ?_, fun name q hq => ?_⟩
    · rw [List.map_map]
      rfl
    · have hname : name ∈ properties.keys := by
        obtain ⟨i, hi, -⟩ := hq
        exact (hschema.mem_keys_iff name).2 ⟨i, q, hi⟩
      obtain ⟨q', property, hq', hproperty, -, hrequired⟩ := hschema.exists_last name hname
      obtain rfl : q = q' := by
        rw [← get?_queryParameters_eq_some_iff] at hq hq'
        exact Option.some_inj.1 (hq.symm.trans hq')
      refine ⟨property, _, hproperty,
        Compilation.result_ofPart_of_mem (Entries.mem_of_get? hproperty) hv, fun registry => ?_⟩
      have hfalse : q.required = false ↔ name ∉ required := by
        rw [hrequired, Bool.not_eq_true]
      rw [hfalse]
      exact Validator.allowsAbsence_of_get? hschema.nodup_keys hproperty

end TypedClient
