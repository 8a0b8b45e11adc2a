import TypedClient.Proofs.Call.Run
import TypedClient.Proofs.Route.QuerySchema
import TypedClient.Proofs.Url.Form
import TypedClient.Proofs.Validator.Agreement
import TypedClient.Proofs.Validator.Stability

/-!
# What the query of a call reveals

A caller may hand over any object as a query.  Of its members, only those that bear the name of a
query parameter of the operation matter to the call (`Call.ConfinesQuery`): every key of the query
string that is sent is such a name, and two objects that agree on these names are treated alike, so
that no other member can leave a trace in the address, or in the error.  This holds for every
endpoint that has a schema for its query (`Blueprint.query_confined`), because the validator of this
schema has a field for each query parameter and strips all other members.
-/

namespace TypedClient

/-- An operation has a query parameter of a name: its own, or one that all operations of its path
share; if the parameter is a reference, the one that it leads to counts. -/
def Site.HasQueryParameter (document : Document) (s : Site) (name : String) : Prop :=
  ∃ p ∈ s.item.parameters ++ s.operation.parameters, ∃ q,
    document.resolve? p = some q ∧ q.location = .query ∧ q.name = name

/-- The query parameters of an operation are those by whose names its query is compiled. -/
lemma Site.hasQueryParameter_of_mem_keys {document : Document} {s : Site} {name : String}
    (h : name ∈ (document.queryParameters s.item s.operation).keys) :
    s.HasQueryParameter document name := by
  obtain ⟨i, q, p, hp, hq⟩ := Document.mem_keys_queryParameters_iff.1 h
  exact ⟨p, List.mem_of_getElem? hp, q, hq⟩

/-! ## Objects that are stripped -/

namespace Validator

variable {registry : Registry} {trail : List String} {fields : List (Field Validator)}
  {members members' : Entries Json}

/-- An object validator that strips yields members with the names of its fields only. -/
lemma exists_object_of_parseFrom_strip (hnodup : (fields.map Field.name).Nodup) {value w : Json}
    (h : (object fields .strip).parseFrom registry trail value = .ok w) :
    ∃ picked : Entries Json, w = .object picked ∧
      ∀ name ∈ picked.keys, name ∈ fields.map Field.name := by
  obtain ⟨members, declared, rfl, hdeclared, hclose⟩ := parseFrom_object_eq_ok h
  obtain ⟨picked, hpicked, hresult⟩ := exists_picks_of_parseFields (by simpa using hnodup) hdeclared
  obtain rfl : declared = picked := by simpa using hresult
  exact ⟨declared, eq_of_closeObject (by simp) hclose, hpicked.keys_subset⟩

/-- An object validator that strips treats two objects alike if they agree on the names of its
fields. -/
lemma parseFrom_strip_congr
    (h : ∀ f ∈ fields, members'.get? f.name = members.get? f.name) :
    (object fields .strip).parseFrom registry trail (.object members') =
      (object fields .strip).parseFrom registry trail (.object members) := by
  have hfields : parseFields registry fields members' [] =
      parseFields registry fields members [] := by
    have hcongr := parseFields_congr registry registry id id (fun f _ => rfl) h
      (fun f _ v _ => rfl) (fun f _ _ => rfl) []
    rwa [List.map_id] at hcongr
  rw [parseFrom, parseFrom, hfields]
  rfl

end Validator

/-! ## The query of a call -/

/-- The keys of a query string are names of members. -/
lemma Query.mem_keys_of_mem_pairs {members : Entries Json} {pair : String × String}
    (h : pair ∈ pairs (.object members)) : pair.1 ∈ members.keys := by
  obtain ⟨member, hmember, hpair⟩ := List.mem_flatMap.1 h
  obtain ⟨item, -, hitem⟩ := List.mem_filterMap.1 hpair
  obtain ⟨text, -, rfl⟩ := Option.map_eq_some_iff.1 hitem
  exact List.mem_map_of_mem hmember

namespace Call

/-- Only members with certain names matter to the query of the calls of an endpoint. -/
structure ConfinesQuery (blueprint : Blueprint) (route : List String) (method : String)
    (e : Endpoint) (declared : String → Prop) : Prop where
  /-- In every request that is sent for an object, what stands behind the path is nothing, or a
  question mark and a form, and each key of the form is one of the names. -/
  keys : ∀ config send (members : Entries Json) body, ∀ request ∈
    (run blueprint config send route method ⟨some (.object members), body⟩).sent,
      ∃ base search, config.baseUrl = .ok base ∧
        request.url = base ++ e.path ++ (if search = "" then "" else "?" ++ search) ∧
        ∀ pair ∈ Url.Form.read search, declared pair.1
  /-- For two objects in which the same is found under each of the names, whatever else they hold
  and in whatever order, the same requests are sent, and the same comes of the call. -/
  agree : ∀ config send (members members' : Entries Json) body,
    (∀ name, declared name → members'.get? name = members.get? name) →
      run blueprint config send route method ⟨some (.object members'), body⟩ =
        run blueprint config send route method ⟨some (.object members), body⟩

variable {blueprint : Blueprint} {config : Config} {send : Request → Except Fault Reply}
  {route : List String} {method : String} {e : Endpoint}

/-- Two calls that differ in their query come out the same, if the same is made of both queries. -/
lemma run_eq_of_checkInput_eq {query query' : Option Json} (body : Option Json)
    (found : blueprint.tree.endpoint? route method = some e)
    (h : checkInput blueprint.registry .query e.query query' =
      checkInput blueprint.registry .query e.query query) :
    run blueprint config send route method ⟨query', body⟩ =
      run blueprint config send route method ⟨query, body⟩ := by
  have hprepare : prepare blueprint.registry config e ⟨query', body⟩ =
      prepare blueprint.registry config e ⟨query, body⟩ := by
    unfold prepare
    rw [h]
  simp only [run, locate, found, hprepare]

/-- If the validator of the query strips all members but those of its fields, only members with the
names of the fields matter. -/
lemma confinesQuery_of_strip {declared : String → Prop} {name : String}
    {fields : List (Field Validator)} (found : blueprint.tree.endpoint? route method = some e)
    (hquery : e.query = some name)
    (hv : blueprint.registry.get? name = some (.object fields .strip))
    (hnodup : (fields.map Field.name).Nodup)
    (hdeclared : ∀ field ∈ fields, declared field.name) :
    ConfinesQuery blueprint route method e declared := by
  constructor
  case keys =>
    intro config send members body request hsent
    obtain ⟨e', found', hprepare, -⟩ := exists_prepared_of_sent hsent
    obtain rfl : e = e' := Option.some_inj.1 (found.symm.trans found')
    obtain ⟨base, query, _, hbase, hpasses, -, rfl⟩ := prepare_eq_ok_iff.1 hprepare
    rcases hpasses with hnone | ⟨hname, hv', hparse⟩
    · cases hquery.symm.trans hnone
    · obtain rfl := Option.some_inj.1 (hquery.symm.trans hname)
      obtain rfl := Option.some_inj.1 (hv.symm.trans hv')
      obtain ⟨picked, rfl, hpicked⟩ := Validator.exists_object_of_parseFrom_strip hnodup hparse
      refine ⟨base, Query.render (.object picked), hbase, ?_, ?_⟩
      · simp [querySuffix]
      · intro pair hpair
        rw [Query.render, Url.Form.read_render] at hpair
        obtain ⟨field, hfield, heq⟩ :=
          List.mem_map.1 (hpicked _ (Query.mem_keys_of_mem_pairs hpair))
        exact heq ▸ hdeclared field hfield
  case agree =>
    intro config send members members' body hagree
    have hparse : Validator.parse (.object fields .strip) blueprint.registry (.object members') =
        Validator.parse (.object fields .strip) blueprint.registry (.object members) :=
      Validator.parseFrom_strip_congr fun f hf => hagree f.name (hdeclared f hf)
    have hcheck : checkInput blueprint.registry .query e.query (some (.object members')) =
        checkInput blueprint.registry .query e.query (some (.object members)) := by
      simp only [checkInput, check, hquery, hv, Option.getD_some, hparse]
    exact run_eq_of_checkInput_eq body found hcheck

end Call

/-! ## The endpoints of a blueprint -/

namespace Blueprint

variable {strict : Bool} {document : Document} {blueprint : Blueprint}

/-- The validator of the query of an endpoint has a field for each query parameter of the operation,
and strips all other members. -/
lemma exists_queryValidator {order : SchemaOrder} (h : ofDocument strict document = .ok blueprint)
    {s : Site} {e : Endpoint} (hs : s.DeclaredIn document order blueprint e) {name : String}
    (hquery : e.query = some name) :
    ∃ fields : List (Field Validator),
      blueprint.registry.get? name = some (.object fields .strip) ∧
      fields.map Field.name = (document.queryParameters s.item s.operation).keys := by
  cases hown : s.ownSchema? document order .query with
  | none =>
    have hnone : e.query = none := hs.isEndpoint.shared .query hown
    cases hquery.symm.trans hnone
  | some schema =>
    obtain ⟨d, hd, hname, hvalidator⟩ := hs.own .query schema hown
    obtain rfl : name = d.name := Option.some_inj.1 (hquery.symm.trans hname)
    have hschema : querySchema? (document.queryParameters s.item s.operation) = some schema := hown
    obtain ⟨-, rfl⟩ := querySchema?_eq_some_iff.1 hschema
    refine ⟨_, (get?_registry_of_mem h (List.mem_append_right _ hd)).trans
      (congrArg some hvalidator), ?_⟩
    rw [List.map_map]
    exact Entries.keys_mapValues _ _

/-- Every endpoint that has a schema for its query is that of an operation, and of the query only
the members that bear the name of a query parameter of this operation matter to its calls. -/
theorem query_confined (h : ofDocument strict document = .ok blueprint) :
    ∃ schemas, document.schemas? = some schemas ∧
      ∀ route method e name, blueprint.tree.endpoint? route method = some e →
        e.query = some name →
          ∃ s ∈ document.sites, s.method = Text.lower method ∧
            s.IsEndpoint document (.ofSchemas schemas) e ∧
            Call.ConfinesQuery blueprint route method e (s.HasQueryParameter document) := by
  obtain ⟨schemas, -, hschemas, -⟩ := ofDocument_eq_ok_iff.1 h
  obtain ⟨pairs, routes, hassembled⟩ := exists_assembled h hschemas
  refine ⟨schemas, hschemas, fun route method e name found hquery => ?_⟩
  obtain ⟨s, hs, hmethod, hdeclaredIn⟩ := hassembled.exists_declaredIn_of_at? found
  obtain ⟨fields, hv, hnames⟩ := exists_queryValidator h hdeclaredIn hquery
  have hnodup : (fields.map Field.name).Nodup := by
    rw [hnames]
    exact Document.nodup_keys_queryParameters
  have hdeclared : ∀ field ∈ fields, s.HasQueryParameter document field.name := by
    intro field hfield
    refine Site.hasQueryParameter_of_mem_keys ?_
    rw [← hnames]
    exact List.mem_map_of_mem hfield
  exact ⟨s, hs, hmethod, hdeclaredIn.isEndpoint,
    Call.confinesQuery_of_strip found hquery hv hnodup hdeclared⟩

/-- A query parameter that a description names. -/
def limitParameter : Parameter where
  name := "limit"
  location := .query
  schema := some (.primitive {} .integer)

/-- An operation with a query parameter of its own and a parameter that is carried elsewhere. -/
def searchOperation : Operation where
  parameters := [
    { name := "q", location := .query, required := true, schema := some (.primitive {} .string) },
    { name := "trace", location := .header }]

/-- The operation at a path that shares the query parameter with a name, by a reference. -/
def searchSite : Site where
  path := "/search"
  item := {
    operations := [("get", searchOperation)]
    parameters := [{ reference := some "#/components/parameters/Limit" }] }
  method := "get"
  operation := searchOperation

/-- A description of the operation. -/
def searchDocument : Document where
  components := some { schemas := some [], parameters := [("Limit", limitParameter)] }
  paths := [(searchSite.path, searchSite.item)]

/-- The endpoint of the operation. -/
def searchEndpoint : Endpoint where
  method := "get"
  path := "/search"
  query := some "getSearchQuery"

/-- The blueprint of the description. -/
def searchBlueprint : Blueprint where
  components := []
  inline := [⟨"getSearchQuery", .object [
    { name := "limit", body := .optional .number },
    { name := "q", body := .string }] .strip, false⟩]
  tree := .node [] [("search", .node [("get", searchEndpoint)] [])]

/-- The description has its blueprint. -/
lemma ofDocument_searchDocument : ofDocument false searchDocument = .ok searchBlueprint := by
  cbv

/-- A member that is no query parameter of the operation leaves no trace in its calls. -/
theorem search_query_confined :
    ofDocument false searchDocument = .ok searchBlueprint ∧
      (∃ s ∈ searchDocument.sites, Call.ConfinesQuery searchBlueprint ["search"] "get"
        searchEndpoint (s.HasQueryParameter searchDocument)) ∧
      ∀ config send limit q token,
        Call.run searchBlueprint config send ["search"] "get"
            { query := some (.object [("token", token), ("q", q), ("limit", limit)]) } =
          Call.run searchBlueprint config send ["search"] "get"
            { query := some (.object [("limit", limit), ("q", q)]) } := by
  obtain ⟨_, -, hconfined⟩ := query_confined ofDocument_searchDocument
  obtain ⟨s, hs, -, -, hsearch⟩ :=
    hconfined ["search"] "get" searchEndpoint "getSearchQuery" rfl rfl
  have hnames : ∀ name, s.HasQueryParameter searchDocument name → name = "limit" ∨ name = "q" := by
    rintro name ⟨p, hp, parameter, hresolve, hlocation, rfl⟩
    obtain rfl : s = searchSite := List.mem_singleton.1 hs
    have hlimit : searchDocument.resolve? { reference := some "#/components/parameters/Limit" } =
        some limitParameter := by cbv
    simp only [searchSite, searchOperation, List.cons_append, List.nil_append, List.mem_cons,
      List.not_mem_nil, or_false] at hp
    rcases hp with rfl | rfl | rfl
    · obtain rfl := Option.some_inj.1 (hlimit.symm.trans hresolve)
      exact Or.inl rfl
    · obtain rfl := Option.some_inj.1 hresolve
      exact Or.inr rfl
    · obtain rfl := Option.some_inj.1 hresolve
      cases hlocation
  refine ⟨ofDocument_searchDocument, ⟨s, hs, hsearch⟩, fun config send limit q token => ?_⟩
  refine hsearch.agree config send _ _ none fun name hname => ?_
  rcases hnames name hname with rfl | rfl
  · simp [Entries.get?]
  · simp [Entries.get?]

end Blueprint

end TypedClient
