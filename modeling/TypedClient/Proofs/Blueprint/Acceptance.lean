import TypedClient.Proofs.Blueprint.Basic
import TypedClient.Proofs.Validator.Acceptance

/-!
# Components accept what their schemas admit

The registry of a blueprint holds the validators of the named schemas
(`Blueprint.serves_of_ofDocument`), so each component accepts the values that its schema admits and
refuses all others (`Blueprint.component_accepts_iff_admits`).
-/

namespace TypedClient.Blueprint

variable {strict : Bool} {document : Document} {blueprint : Blueprint} {schemas : Entries Schema}

/-- The components of a blueprint are those that are compiled from the named schemas. -/
lemma components_eq_compiled (hschemas : document.schemas? = some schemas)
    (h : ofDocument strict document = .ok blueprint) :
    blueprint.components = Declaration.compiled schemas (.ofSchemas schemas) := by
  obtain ⟨schemas', routes, hschemas', -, -, rfl⟩ := ofDocument_eq_ok_iff.1 h
  obtain rfl : schemas = schemas' := Option.some_inj.1 (hschemas.symm.trans hschemas')
  rfl

/-- Every named schema has a component with its validator. -/
lemma exists_component (hschemas : document.schemas? = some schemas)
    (h : ofDocument strict document = .ok blueprint) {name : String} {s : Schema}
    (hs : schemas.get? name = some s) :
    ∃ d ∈ blueprint.components, d.name = name ∧
      d.validator = s.validator (.ofSchemas schemas) name := by
  have hname : name ∈ (SchemaOrder.ofSchemas schemas).names :=
    (SchemaOrder.mem_names_ofSchemas schemas).2 (Entries.mem_keys_of_get? hs)
  rw [components_eq_compiled hschemas h]
  exact Declaration.exists_mem_compiled hname hs

/-- The registry of a blueprint holds the validators of the named schemas. -/
lemma serves_of_ofDocument (hschemas : document.schemas? = some schemas)
    (h : ofDocument strict document = .ok blueprint) :
    blueprint.registry.Serves schemas (.ofSchemas schemas) := by
  constructor
  case mem_names_iff => exact fun name => SchemaOrder.mem_names_ofSchemas schemas
  case get?_eq =>
    intro name s hs
    obtain ⟨d, hd, rfl, hvalidator⟩ := exists_component hschemas h hs
    rw [get?_registry_of_mem h (List.mem_append_left _ hd), hvalidator]

/-- A description that has named schemas and nothing else has a blueprint. -/
lemma exists_blueprint_of_schemas (schemas : Entries Schema) :
    ∃ blueprint, ofDocument false { components := some { schemas := some schemas } } =
      .ok blueprint := by
  exact ⟨_, ofDocument_eq_ok_iff.2 ⟨schemas, {}, rfl, rfl, by simp, rfl⟩⟩

/-- Every list of named schemas has a blueprint.  In each blueprint, every named schema has a
component, registered under its name, which accepts a value if the schema admits it and ends in an
issue if not. -/
theorem component_accepts_iff_admits :
    (∀ schemas : Entries Schema,
      ∃ blueprint, ofDocument false { components := some { schemas := some schemas } } =
        .ok blueprint) ∧
    ∀ strict document blueprint schemas,
      ofDocument strict document = .ok blueprint → document.schemas? = some schemas →
      ∀ name s, schemas.get? name = some s →
        ∃ d ∈ blueprint.components, d.name = name ∧
          blueprint.registry.get? name = some d.validator ∧
          ∀ v,
            ((∃ w, d.validator.parse blueprint.registry v = .ok w) ↔ s.Admits schemas v) ∧
            ((∃ i, d.validator.parse blueprint.registry v = .error (.issue i)) ↔
              ¬s.Admits schemas v) := by
  refine ⟨exists_blueprint_of_schemas, ?_⟩
  intro strict document blueprint schemas h hschemas name s hs
  obtain ⟨d, hd, rfl, hvalidator⟩ := exists_component hschemas h hs
  refine ⟨d, hd, rfl, get?_registry_of_mem h (List.mem_append_left _ hd), fun v => ?_⟩
  have hdecides := Schema.decides_validator (serves_of_ofDocument hschemas h) v s d.name
  rw [hvalidator]
  exact ⟨hdecides.exists_ok_iff, hdecides.exists_issue_iff⟩

/-- The component of one of two schemas that refer to each other accepts a value if and only if its
schema admits the value. -/
theorem circle_accepts_iff_admits :
    ∃ schemas s, circleDocument.schemas? = some schemas ∧ schemas.get? "House" = some s ∧
      ∃ d ∈ circleBlueprint.components, d.name = "House" ∧
        circleBlueprint.registry.get? "House" = some d.validator ∧
        ∀ v,
          ((∃ w, d.validator.parse circleBlueprint.registry v = .ok w) ↔ s.Admits schemas v) ∧
          ((∃ i, d.validator.parse circleBlueprint.registry v = .error (.issue i)) ↔
            ¬s.Admits schemas v) :=
  ⟨_, _, rfl, rfl, component_accepts_iff_admits.2 false circleDocument circleBlueprint _
    ofDocument_circleDocument rfl "House" _ rfl⟩

end TypedClient.Blueprint
