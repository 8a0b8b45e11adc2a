import TypedClient.Proofs.Blueprint.Basic
import TypedClient.Proofs.Route.OfDocument

/-!
# The endpoints of a blueprint

Every endpoint of a blueprint is that of an operation, and the names that it bears are those of
declarations: a schema that the operation has of its own is declared for it, and any other name is
that of a named schema (`Site.DeclaredIn`).
-/

namespace TypedClient

/-- The names of the schemas of an endpoint. -/
def Endpoint.schemaNames (e : Endpoint) : List String :=
  e.query.toList ++ e.body.toList ++ e.response.toList

/-- The schemas of an endpoint are declared in a blueprint, for the operation that it is the
endpoint of. -/
structure Site.DeclaredIn (document : Document) (order : SchemaOrder) (blueprint : Blueprint)
    (s : Site) (e : Endpoint) : Prop where
  /-- It is the endpoint of the operation. -/
  isEndpoint : s.IsEndpoint document order e
  /-- An input for which the operation has a schema of its own bears the name of a declaration of
  this schema. -/
  own : ∀ slot schema, s.ownSchema? document order slot = some schema →
    ∃ d ∈ blueprint.inline, e.inSlot slot = some d.name ∧
      d.validator = schema.validator order d.name
  /-- Any other input, if it has a schema, bears the name of a named schema. -/
  shared : ∀ slot name, s.ownSchema? document order slot = none → e.inSlot slot = some name →
    ∃ d ∈ blueprint.components, d.name = name
  /-- So does the answer. -/
  answer : ∀ name, e.response = some name → ∃ d ∈ blueprint.components, d.name = name

namespace Blueprint

variable {strict : Bool} {document : Document} {blueprint : Blueprint} {schemas : Entries Schema}

/-- The operations of a description and the endpoints of its blueprint. -/
structure Assembled (document : Document) (order : SchemaOrder) (pairs : List (Site × Endpoint))
    (routes : Routes) (blueprint : Blueprint) : Prop where
  /-- The operations are listed in order. -/
  sites_eq : pairs.map Prod.fst = document.sites
  /-- They have been added with their endpoints. -/
  built : Routes.Built document order pairs routes
  /-- The names of the schemas of their own are apart from those of the named schemas. -/
  apart : InlineSchemas.Apart order routes.inline
  /-- The tree is theirs, with the keys that collide renamed. -/
  tree_eq : blueprint.tree = routes.tree.resolveCollisions
  /-- The schemas of their own have been compiled. -/
  inline_eq : blueprint.inline = Declaration.compiledInline routes.inline order
  /-- The components have the names of the order. -/
  names_eq : blueprint.components.map Declaration.name = order.names

/-- Every blueprint is assembled from the operations of its description. -/
lemma exists_assembled (h : ofDocument strict document = .ok blueprint)
    (hschemas : document.schemas? = some schemas) :
    ∃ pairs routes, Assembled document (.ofSchemas schemas) pairs routes blueprint := by
  obtain ⟨schemas', resolved, hschemas', hroutes, -, rfl⟩ := ofDocument_eq_ok_iff.1 h
  obtain rfl : schemas = schemas' := Option.some_inj.1 (hschemas.symm.trans hschemas')
  have happart := Routes.apart_ofDocument hroutes
  obtain ⟨pairs, routes, hsites, hbuilt, rfl⟩ := Routes.exists_built hroutes
  exact ⟨pairs, routes, hsites, hbuilt, happart, rfl, rfl,
    Declaration.map_name_compiled fun _ => (SchemaOrder.mem_names_ofSchemas schemas).1⟩

namespace Assembled

variable {order : SchemaOrder} {pairs : List (Site × Endpoint)} {routes : Routes} {s : Site}
  {e : Endpoint}

/-- A name of the order is that of a component, and no other name is. -/
lemma mem_names_iff (h : Assembled document order pairs routes blueprint) {name : String} :
    name ∈ order.names ↔ ∃ d ∈ blueprint.components, d.name = name := by
  rw [← h.names_eq, List.mem_map]

/-- What an operation claimed has been declared. -/
lemma exists_declaration (h : Assembled document order pairs routes blueprint)
    (hp : (s, e) ∈ pairs) {entry : String × Schema} (hentry : entry ∈ s.claims document order e) :
    ∃ d ∈ blueprint.inline, d.name = entry.1 ∧ d.validator = entry.2.validator order entry.1 := by
  have hmem : entry ∈ routes.inline := by
    rw [h.built.inline]
    exact List.mem_flatMap.2 ⟨(s, e), hp, hentry⟩
  rw [h.inline_eq]
  exact ⟨_, List.mem_map.2 ⟨entry, hmem, rfl⟩, rfl, rfl⟩

/-- The schemas of the endpoint of an operation are declared. -/
lemma declaredIn (h : Assembled document order pairs routes blueprint) (hp : (s, e) ∈ pairs) :
    s.DeclaredIn document order blueprint e := by
  have he : s.IsEndpoint document order e := h.built.isEndpoint _ hp
  have hcomponent : ∀ {name : String} {schema? : Option Schema},
      schema?.bind (Schema.component? order) = some name →
        ∃ d ∈ blueprint.components, d.name = name := by
    intro name schema? hname
    obtain ⟨schema, -, hschema⟩ := Option.bind_eq_some_iff.1 hname
    obtain ⟨pointer, -, htarget⟩ := Option.bind_eq_some_iff.1 hschema
    exact h.mem_names_iff.1 (Schema.mem_names_of_target? htarget)
  constructor
  case isEndpoint => exact he
  case own =>
    intro slot schema hown
    obtain ⟨name, hname⟩ := he.own slot schema hown
    have hclaim : (name, schema) ∈ s.claims document order e :=
      Site.mem_claims_iff.2 ⟨slot, hown, hname⟩
    obtain ⟨d, hd, rfl, hvalidator⟩ := h.exists_declaration hp hclaim
    exact ⟨d, hd, hname, hvalidator⟩
  case shared =>
    intro slot name hown hname
    rw [he.shared slot hown] at hname
    cases slot with
    | query => cases hname
    | body => exact hcomponent hname
  case answer =>
    intro name hname
    rw [he.response_eq] at hname
    exact hcomponent hname

/-- An endpoint that is found in the tree is that of an operation. -/
lemma exists_mem_of_at? (h : Assembled document order pairs routes blueprint) {route : List String}
    {method : String} (hat : blueprint.tree.at? route method = some e) :
    ∃ s, (s, e) ∈ pairs ∧ s.method = method ∧ RouteTree.newRoute s.keys routes.tree = route := by
  rw [h.tree_eq, RouteTree.at?_resolveCollisions_iff] at hat
  obtain ⟨keys, hat, hroute⟩ := hat
  obtain ⟨s, hs, rfl, hmethod⟩ := (h.built.at?_iff _ _ _).1 hat
  exact ⟨s, hs, hmethod, hroute⟩

/-- The endpoint of an operation is found at its new route. -/
lemma at?_of_mem (h : Assembled document order pairs routes blueprint) (hp : (s, e) ∈ pairs) :
    blueprint.tree.at? (RouteTree.newRoute s.keys routes.tree) s.method = some e := by
  rw [h.tree_eq, RouteTree.at?_resolveCollisions_iff]
  exact ⟨s.keys, (h.built.at?_iff _ _ _).2 ⟨s, hp, rfl, rfl⟩, rfl⟩

/-- An endpoint that is found in the tree is that of an operation, for which its schemas are
declared. -/
lemma exists_declaredIn_of_at? (h : Assembled document order pairs routes blueprint)
    {route : List String} {method : String} (hat : blueprint.tree.at? route method = some e) :
    ∃ s ∈ document.sites, s.method = method ∧ s.DeclaredIn document order blueprint e := by
  obtain ⟨s, hp, hmethod, -⟩ := h.exists_mem_of_at? hat
  exact ⟨s, h.sites_eq ▸ List.mem_map_of_mem hp, hmethod, h.declaredIn hp⟩

end Assembled

/-- Every name that an endpoint of a blueprint bears is that of a declaration. -/
lemma exists_declaration_of_at? (h : ofDocument strict document = .ok blueprint)
    {route : List String} {method : String} {e : Endpoint}
    (hat : blueprint.tree.at? route method = some e) {name : String}
    (hname : name ∈ e.schemaNames) : ∃ d ∈ blueprint.declarations, d.name = name := by
  obtain ⟨schemas, -, hschemas, -⟩ := ofDocument_eq_ok_iff.1 h
  obtain ⟨pairs, routes, hassembled⟩ := exists_assembled h hschemas
  obtain ⟨s, -, -, hdeclared⟩ := hassembled.exists_declaredIn_of_at? hat
  have hinput : ∀ slot, e.inSlot slot = some name →
      ∃ d ∈ blueprint.declarations, d.name = name := by
    intro slot hslot
    cases hown : s.ownSchema? document (.ofSchemas schemas) slot with
    | some schema =>
      obtain ⟨d, hd, hd', -⟩ := hdeclared.own slot schema hown
      exact ⟨d, List.mem_append_right _ hd, Option.some_inj.1 (hd'.symm.trans hslot)⟩
    | none =>
      obtain ⟨d, hd, hd'⟩ := hdeclared.shared slot name hown hslot
      exact ⟨d, List.mem_append_left _ hd, hd'⟩
  simp only [Endpoint.schemaNames, List.mem_append, Option.mem_toList] at hname
  obtain (hquery | hbody) | hresponse := hname
  · exact hinput .query hquery
  · exact hinput .body hbody
  · obtain ⟨d, hd, hd'⟩ := hdeclared.answer name hresponse
    exact ⟨d, List.mem_append_left _ hd, hd'⟩

end Blueprint

end TypedClient
