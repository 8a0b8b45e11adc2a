import TypedClient.Proofs.Blueprint.Acceptance
import TypedClient.Proofs.Blueprint.Endpoints
import TypedClient.Proofs.Document.Schemas
import TypedClient.Proofs.Route.QuerySchema
import TypedClient.Proofs.Validator.Stability

/-!
# A parsed value is parsed to itself

All schemas of a description that has been read are uniform, those of single operations included
(`Site.uniform_ownSchema?`).  So the validator of every declaration leaves what it makes of a value
as it is: a value that has been checked once passes the same check again, unchanged
(`Blueprint.parse_parsed`).
-/

namespace TypedClient

/-! ## Schemas of single operations -/

/-- The value of a parameter follows a uniform schema, if the schema of the parameter is uniform. -/
lemma Parameter.uniform_valueSchema {p : Parameter} (h : p.EverySchema Schema.Uniform) :
    p.valueSchema.Uniform := by
  have hschema : (p.schema.getD (.unknown {} none)).Uniform := by
    cases hs : p.schema with
    | none => exact .unknown _ _
    | some s => exact h s hs
  unfold valueSchema
  dsimp only
  split
  · exact hschema.withNotes _
  · exact hschema

/-- The schema of a query is uniform, if the parameters have different names and their schemas are
uniform. -/
lemma uniform_querySchema? {parameters : Entries Parameter} (hnodup : parameters.keys.Nodup)
    (h : ∀ e ∈ parameters, e.2.EverySchema Schema.Uniform) {s : Schema}
    (hs : querySchema? parameters = some s) : s.Uniform := by
  obtain ⟨-, rfl⟩ := querySchema?_eq_some_iff.1 hs
  refine .object _ _ _ (by rwa [Entries.keys_mapValues]) fun p hp => ?_
  obtain ⟨e, he, rfl⟩ := List.mem_map.1 hp
  exact Parameter.uniform_valueSchema (h e he)

namespace Document

variable {document : Document} {P : Schema → Prop}

/-- A parameter that a reference leads to is one of the named parameters. -/
lemma everySchema_of_resolve? (h : document.EverySchema P) {p q : Parameter}
    (hp : p.EverySchema P) (hq : document.resolve? p = some q) : q.EverySchema P := by
  unfold resolve? at hq
  split at hq
  · exact Option.some_inj.1 hq ▸ hp
  · obtain ⟨name, -, hq⟩ := Option.bind_eq_some_iff.1 hq
    obtain ⟨components, hcomponents, hq⟩ := Option.bind_eq_some_iff.1 hq
    exact (h.components components hcomponents).parameters _ (Entries.mem_of_get? hq)

/-- What holds of every schema of a description holds of those of the query parameters of its
operations. -/
lemma everySchema_of_mem_queryParameters (h : document.EverySchema P) {item : PathItem}
    {operation : Operation} (hitem : item.EverySchema P) (hoperation : operation.EverySchema P)
    {e : String × Parameter} (he : e ∈ document.queryParameters item operation) :
    e.2.EverySchema P := by
  have hfound := Entries.get?_of_mem nodup_keys_queryParameters he
  obtain ⟨i, ⟨p, hp, hpq, -⟩, -⟩ := get?_queryParameters_eq_some_iff.1 hfound
  refine everySchema_of_resolve? h ?_ hpq
  rcases List.mem_append.1 (List.mem_of_getElem? hp) with hp | hp
  · exact hitem.parameters p hp
  · exact hoperation.parameters p hp

end Document

/-- The schemas that an operation has of its own are uniform, if those of the description are. -/
lemma Site.uniform_ownSchema? {document : Document} {order : SchemaOrder}
    (h : document.EverySchema Schema.Uniform) {s : Site} (hs : s ∈ document.sites) {slot : Slot}
    {schema : Schema} (hschema : s.ownSchema? document order slot = some schema) :
    schema.Uniform := by
  obtain ⟨p, hp, hs⟩ := List.mem_flatMap.1 hs
  obtain ⟨o, ho, rfl⟩ := List.mem_map.1 hs
  have hitem := h.paths p hp
  have hoperation := hitem.operations o ho
  cases slot with
  | query =>
    exact uniform_querySchema? Document.nodup_keys_queryParameters
      (fun e => Document.everySchema_of_mem_queryParameters h hitem hoperation) hschema
  | body =>
    obtain ⟨hrequest, -⟩ := Option.filter_eq_some_iff.1 hschema
    obtain ⟨body, hbody, hjson⟩ := Option.bind_eq_some_iff.1 hrequest
    have hentry := Entries.mem_of_get? (Option.join_eq_some_iff.1 hjson)
    exact hoperation.requestBody body hbody _ hentry schema rfl

/-! ## Declarations -/

namespace Blueprint

variable {strict : Bool} {text : String} {document : Document} {blueprint : Blueprint}
  {schemas : Entries Schema}

/-- Every declaration is that of a uniform schema, if the schemas of the description are uniform. -/
lemma exists_uniform_of_mem (huniform : document.EverySchema Schema.Uniform)
    (h : ofDocument strict document = .ok blueprint) (hschemas : document.schemas? = some schemas)
    {d : Declaration} (hd : d ∈ blueprint.declarations) :
    ∃ s : Schema, s.Uniform ∧ d.validator = s.validator (.ofSchemas schemas) d.name := by
  rcases List.mem_append.1 hd with hd | hd
  · rw [components_eq_compiled hschemas h] at hd
    obtain ⟨s, -, hs, hd⟩ := Declaration.mem_compiled_iff.1 hd
    obtain ⟨components, hcomponents, hschemas⟩ := Option.bind_eq_some_iff.1 hschemas
    refine ⟨s, ?_, by rw [hd]⟩
    exact (huniform.components components hcomponents).schemas schemas hschemas _
      (Entries.mem_of_get? hs)
  · obtain ⟨pairs, routes, hassembled⟩ := exists_assembled h hschemas
    rw [hassembled.inline_eq] at hd
    obtain ⟨entry, hentry, rfl⟩ := List.mem_map.1 hd
    rw [hassembled.built.inline] at hentry
    obtain ⟨p, hp, hclaim⟩ := List.mem_flatMap.1 hentry
    obtain ⟨slot, hown, -⟩ := Site.mem_claims_iff.1 hclaim
    have hsite : p.1 ∈ document.sites := hassembled.sites_eq ▸ List.mem_map_of_mem hp
    exact ⟨entry.2, Site.uniform_ownSchema? huniform hsite hown, rfl⟩

/-- In the blueprint of a description that has been read, the validator of every declaration leaves
what it makes of a value as it is, down to the order of the members. -/
theorem parse_parsed (hread : Document.read text = .ok document)
    (h : ofDocument strict document = .ok blueprint) :
    ∀ d ∈ blueprint.declarations, ∀ v w : Json,
      d.validator.parse blueprint.registry v = .ok w →
        d.validator.parse blueprint.registry w = .ok w := by
  intro d hd v w hv
  have huniform := Document.everySchema_of_read Schema.uniform_ofJson hread
  obtain ⟨schemas, -, hschemas, -⟩ := ofDocument_eq_ok_iff.1 h
  obtain ⟨s, hs, hvalidator⟩ := exists_uniform_of_mem huniform h hschemas hd
  obtain ⟨components, hcomponents, hentries⟩ := Option.bind_eq_some_iff.1 hschemas
  have hnamed : ∀ name s, schemas.get? name = some s → s.Uniform := fun name s hs =>
    (huniform.components components hcomponents).schemas schemas hentries _
      (Entries.mem_of_get? hs)
  rw [hvalidator] at hv ⊢
  exact Schema.stable_validator (serves_of_ofDocument hschemas h) hnamed v hs d.name [] w hv

/-- The text of a description of one schema, which has a property that is a text or a list of
values of the schema itself. -/
def tagsText : String :=
  "\x7b\"components\": \x7b\"schemas\": \x7b\"Tag\": \x7b\"type\": \"object\", " ++
    "\"properties\": \x7b\"tags\": \x7b\"type\": [\"array\", \"string\"], " ++
    "\"items\": \x7b\"$ref\": \"#/components/schemas/Tag\"\x7d\x7d\x7d\x7d\x7d\x7d\x7d"

/-- The events of the text. -/
def tagsEvents : List (Yaml.Event String) :=
  let scalar := fun text => Yaml.Event.scalar {} text false
  [.mappingStart {}, scalar "components", .mappingStart {}, scalar "schemas", .mappingStart {},
    scalar "Tag", .mappingStart {}, scalar "type", scalar "object",
      scalar "properties", .mappingStart {}, scalar "tags", .mappingStart {},
        scalar "type", .sequenceStart {}, scalar "array", scalar "string", .sequenceEnd,
        scalar "items", .mappingStart {},
          scalar "$ref", scalar "#/components/schemas/Tag",
    .mappingEnd, .mappingEnd, .mappingEnd, .mappingEnd, .mappingEnd, .mappingEnd, .mappingEnd]

/-- The value of the events. -/
def tagsValue : Yaml.Value :=
  .mapping [(.string "components", .mapping [(.string "schemas", .mapping [
    (.string "Tag", .mapping [
      (.string "type", .string "object"),
      (.string "properties", .mapping [(.string "tags", .mapping [
        (.string "type", .sequence [.string "array", .string "string"]),
        (.string "items", .mapping [(.string "$ref", .string "#/components/schemas/Tag")])])])])])])]

/-- The description that the text spells. -/
def tagsDocument : Document where
  components := some {
    schemas := some [("Tag", .object {} [("tags", .union {} [
      .array {} (.reference {} "#/components/schemas/Tag"), .primitive {} .string])] [] none)] }

/-- The text spells the description. -/
lemma read_tagsText : Document.read tagsText = .ok tagsDocument := by
  have hevents : (Yaml.tokens? tagsText.toList).bind Yaml.Event.ofTokens? = some tagsEvents := by
    -- The literals are taken apart by a lemma, which is much faster than decoding them.
    delta tagsText
    simp only [String.toList_append]
    repeat rw [String.toList_ofList]
    decide +kernel
  have hvalue : Yaml.Value.ofEvents? tagsEvents = some tagsValue := by cbv
  exact Document.read_eq_ok_of_steps hevents hvalue rfl

/-- The declaration of the schema, whose lists consist of values of the declaration itself. -/
def tagDeclaration : Declaration where
  name := "Tag"
  validator := .object [{
    name := "tags", body := .optional (.union [.array (.reference "Tag" true), .string]) }] .strip
  deferred := true

/-- The blueprint of the description. -/
def tagsBlueprint : Blueprint where
  components := [tagDeclaration]
  inline := []
  tree := .empty

/-- The description has its blueprint, also if no degradation is allowed. -/
lemma ofDocument_tagsDocument : ofDocument true tagsDocument = .ok tagsBlueprint := by
  cbv

/-- A value with an undeclared member at each of two depths. -/
def taggedValue : Json := .object [("tags", .array [.object [("a", .null)]]), ("b", .bool true)]

/-- What the declaration makes of the value. -/
def parsedTaggedValue : Json := .object [("tags", .array [.object []])]

/-- A value that loses members at two depths is parsed to one that is parsed to itself. -/
theorem tags_parse_parsed :
    Document.read tagsText = .ok tagsDocument ∧
      ofDocument true tagsDocument = .ok tagsBlueprint ∧
      tagDeclaration.validator.parse tagsBlueprint.registry taggedValue = .ok parsedTaggedValue ∧
      tagDeclaration.validator.parse tagsBlueprint.registry parsedTaggedValue =
        .ok parsedTaggedValue := by
  have hparse : tagDeclaration.validator.parse tagsBlueprint.registry taggedValue =
      .ok parsedTaggedValue := by cbv
  refine ⟨read_tagsText, ofDocument_tagsDocument, hparse, ?_⟩
  exact parse_parsed read_tagsText ofDocument_tagsDocument tagDeclaration
    (List.mem_singleton_self _) taggedValue parsedTaggedValue hparse

end Blueprint

end TypedClient
