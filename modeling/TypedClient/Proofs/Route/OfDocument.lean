import TypedClient.Proofs.Route.Collisions
import TypedClient.Proofs.Route.Inline

/-!
# The operations of a description and their endpoints

A description gives a list of operations, each at a path and with a method (`Document.sites`).  The
routes are built by adding one after the other.  At each moment the tree holds exactly the endpoints
of the operations so far, each at the keys of its path, and the table of schemas of single
operations consists of what these operations claimed, in order (`Routes.Built`).  An operation that
is added conflicts with none of them, and a conflict that is reported is one with one of them.  So
the routes of a description come about if and only if no two of its operations conflict
(`Routes.exists_ofDocument_iff`).
-/

namespace TypedClient

/-- An operation, with the path and the method under which a description gives it. -/
structure Site where
  /-- The path. -/
  path : String
  /-- What the description gives at the path. -/
  item : PathItem
  /-- The method. -/
  method : String
  /-- The operation. -/
  operation : Operation

/-- The operations of a description, in order. -/
def Document.sites (document : Document) : List Site :=
  document.paths.flatMap fun p => p.2.operations.map fun o => ⟨p.1, p.2, o.1, o.2⟩

/-- An input of an endpoint that has a schema. -/
inductive Slot where
  | query
  | body
deriving DecidableEq

/-- The name of the schema of an input. -/
def Endpoint.inSlot (endpoint : Endpoint) : Slot → Option String
  | .query => endpoint.query
  | .body => endpoint.body

namespace Site

/-- The keys of the segments of the path. -/
def keys (s : Site) : List String := Naming.routeKeys s.path

/-- Two operations that exclude each other: they bear one identifier, or they have one list of keys
and one method. -/
def Conflicts (a b : Site) : Prop :=
  (∃ id, a.operation.operationId = some id ∧ b.operation.operationId = some id) ∨
    (a.keys = b.keys ∧ a.method = b.method)

/-- A conflict that is one between two operations: it tells what they have in common. -/
inductive Clash : Conflict → Site → Site → Prop where
  | operationId {a b : Site} {id : String} (ha : a.operation.operationId = some id)
    (hb : b.operation.operationId = some id) : Clash (.operationId id) a b
  | route {a b : Site} (hkeys : a.keys = b.keys) (hmethod : a.method = b.method) :
    Clash (.route a.path b.path b.keys b.method) a b

/-- Operations between which there is a conflict exclude each other. -/
lemma Clash.conflicts {conflict : Conflict} {a b : Site} (h : Clash conflict a b) :
    a.Conflicts b := by
  cases h with
  | operationId ha hb => exact Or.inl ⟨_, ha, hb⟩
  | route hkeys hmethod => exact Or.inr ⟨hkeys, hmethod⟩

variable (document : Document) (order : SchemaOrder)

/-- The schema of its own that an operation has for an input: that of its query parameters, and that
of its body if this is no named schema. -/
def ownSchema? (s : Site) : Slot → Option Schema
  | .query => querySchema? (document.queryParameters s.item s.operation)
  | .body => s.operation.requestSchema?.filter fun schema => (schema.component? order).isNone

/-- The named schema that an operation has for an input. -/
def component? (s : Site) : Slot → Option String
  | .query => none
  | .body => s.operation.requestSchema?.bind (Schema.component? order)

/-- The named schema of the answer of an operation. -/
def answer? (s : Site) : Option String :=
  s.operation.responseSchema?.bind (Schema.component? order)

/-- An endpoint is that of an operation. -/
structure IsEndpoint (s : Site) (e : Endpoint) : Prop where
  /-- It has the method of the operation. -/
  method_eq : e.method = s.method
  /-- It has the path of the operation. -/
  path_eq : e.path = s.path
  /-- It has the identifier of the operation. -/
  operationId_eq : e.operationId = s.operation.operationId
  /-- It has the summary of the operation. -/
  summary_eq : e.summary = s.operation.summary
  /-- Its answer follows the named schema of the operation. -/
  response_eq : e.response = s.answer? order
  /-- An input for which the operation has a schema of its own has a name. -/
  own : ∀ slot schema, s.ownSchema? document order slot = some schema →
    ∃ name, e.inSlot slot = some name
  /-- Any other input bears the name of the named schema of the operation. -/
  shared : ∀ slot, s.ownSchema? document order slot = none → e.inSlot slot = s.component? order slot

/-- What an operation claims for an input: its own schema under the name that its endpoint bears. -/
def slotClaim (s : Site) (e : Endpoint) (slot : Slot) : List (String × Schema) :=
  ((s.ownSchema? document order slot).bind fun schema =>
    (e.inSlot slot).map fun name => (name, schema)).toList

/-- What an operation claims: first for its body, then for its query. -/
def claims (s : Site) (e : Endpoint) : List (String × Schema) :=
  s.slotClaim document order e .body ++ s.slotClaim document order e .query

variable {document order} {s : Site} {e : Endpoint}

/-- An entry is claimed for an input if and only if the operation has its schema, and the endpoint
its name, for the input. -/
lemma mem_slotClaim_iff {slot : Slot} {entry : String × Schema} :
    entry ∈ s.slotClaim document order e slot ↔
      s.ownSchema? document order slot = some entry.2 ∧ e.inSlot slot = some entry.1 := by
  obtain ⟨name, schema⟩ := entry
  rw [slotClaim, Option.mem_toList, Option.bind_eq_some_iff]
  simp only [Option.map_eq_some_iff, Prod.mk.injEq]
  constructor
  · rintro ⟨_, hown, _, hname, rfl, rfl⟩
    exact ⟨hown, hname⟩
  · rintro ⟨hown, hname⟩
    exact ⟨schema, hown, name, hname, rfl, rfl⟩

/-- An entry is claimed if and only if it is claimed for some input. -/
lemma mem_claims_iff {entry : String × Schema} :
    entry ∈ s.claims document order e ↔
      ∃ slot, s.ownSchema? document order slot = some entry.2 ∧ e.inSlot slot = some entry.1 := by
  rw [claims, List.mem_append, mem_slotClaim_iff, mem_slotClaim_iff]
  constructor
  · rintro (h | h)
    · exact ⟨.body, h⟩
    · exact ⟨.query, h⟩
  · rintro ⟨slot, h⟩
    cases slot with
    | body => exact Or.inl h
    | query => exact Or.inr h

end Site

namespace Routes

variable {document : Document} {order : SchemaOrder} {s : Site} {pairs : List (Site × Endpoint)}
  {routes routes' : Routes}

/-! ## One operation -/

/-- A name for an input of an operation, and a table, come from the table before: if the operation
has a schema of its own for the input, it has been added under the name. -/
structure Claims (document : Document) (order : SchemaOrder) (s : Site) (slot : Slot)
    (table : InlineSchemas) (answer : Option String × InlineSchemas) : Prop where
  /-- A schema of its own gets a name. -/
  own : ∀ schema, s.ownSchema? document order slot = some schema → ∃ name, answer.1 = some name
  /-- Otherwise the name is that of the named schema. -/
  shared : s.ownSchema? document order slot = none → answer.1 = s.component? order slot
  /-- What has been added to the table. -/
  table_eq : answer.2 = table ++ ((s.ownSchema? document order slot).bind fun schema =>
    answer.1.map fun name => (name, schema)).toList

/-- The name of the body of an operation. -/
lemma claims_bodyClaim (table : InlineSchemas) (s : Site) :
    Claims document order s .body table (bodyClaim order table s.path s.method s.operation) := by
  unfold bodyClaim
  cases hschema : s.operation.requestSchema? with
  | none =>
    have hown : s.ownSchema? document order .body = none := by
      rw [Site.ownSchema?, hschema]
      rfl
    have hcomponent : s.component? order .body = none := by
      rw [Site.component?, hschema]
      rfl
    exact ⟨by simp [hown], fun _ => hcomponent.symm, by simp [hown]⟩
  | some schema =>
    dsimp only
    cases hname : schema.component? order with
    | none =>
      have hown : s.ownSchema? document order .body = some schema := by
        simp [Site.ownSchema?, hschema, hname]
      refine ⟨fun _ _ => ⟨_, rfl⟩, by simp [hown], ?_⟩
      rw [hown]
      exact InlineSchemas.claim_eq _ _ _ _
    | some name =>
      have hown : s.ownSchema? document order .body = none := by
        simp [Site.ownSchema?, hschema, hname]
      have hcomponent : s.component? order .body = some name := by
        simp [Site.component?, hschema, hname]
      exact ⟨by simp [hown], fun _ => hcomponent.symm, by simp [hown]⟩

/-- The name of the query of an operation. -/
lemma claims_queryClaim (table : InlineSchemas) (s : Site) :
    Claims document order s .query table
      (queryClaim document order table s.path s.item s.method s.operation) := by
  unfold queryClaim
  cases hschema : querySchema? (document.queryParameters s.item s.operation) with
  | none =>
    have hown : s.ownSchema? document order .query = none := hschema
    exact ⟨by simp [hown], fun _ => rfl, by simp [hown]⟩
  | some schema =>
    have hown : s.ownSchema? document order .query = some schema := hschema
    refine ⟨fun _ _ => ⟨_, rfl⟩, by simp [hown], ?_⟩
    rw [hown]
    exact InlineSchemas.claim_eq _ _ _ _

variable (document order) in
/-- The endpoint of an operation, and what the operation adds to the table. -/
lemma isEndpoint_endpointOf (table : InlineSchemas) (s : Site) :
    s.IsEndpoint document order
        (endpointOf document order table s.path s.item s.method s.operation).1 ∧
      (endpointOf document order table s.path s.item s.method s.operation).2 =
        table ++ s.claims document order
          (endpointOf document order table s.path s.item s.method s.operation).1 := by
  rw [endpointOf_eq]
  dsimp only
  have hbody : Claims document order s .body table _ := claims_bodyClaim table s
  generalize bodyClaim order table s.path s.method s.operation = body at hbody
  have hquery : Claims document order s .query body.2 _ := claims_queryClaim body.2 s
  generalize queryClaim document order body.2 s.path s.item s.method s.operation = query at hquery
  constructor
  · constructor
    case own =>
      intro slot
      cases slot with
      | query => exact hquery.own
      | body => exact hbody.own
    case shared =>
      intro slot
      cases slot with
      | query => exact hquery.shared
      | body => exact hbody.shared
    all_goals rfl
  · rw [hquery.table_eq, hbody.table_eq, List.append_assoc]
    rfl

/-- The routes with an operation added. -/
def addSite (document : Document) (order : SchemaOrder) (routes : Routes) (s : Site) :
    Except Conflict Routes :=
  addOperation document order s.path s.item routes (s.method, s.operation)

/-- The state of the routes after some operations have been added, which are listed with their
endpoints. -/
structure Built (document : Document) (order : SchemaOrder) (pairs : List (Site × Endpoint))
    (routes : Routes) : Prop where
  /-- Each operation is listed with an endpoint of its own. -/
  isEndpoint : ∀ p ∈ pairs, p.1.IsEndpoint document order p.2
  /-- The tree holds the listed endpoints, each at the keys of its operation, and no others. -/
  at?_iff : ∀ keys method e, routes.tree.at? keys method = some e ↔
    ∃ s, (s, e) ∈ pairs ∧ s.keys = keys ∧ s.method = method
  /-- The tree holds as many endpoints as are listed. -/
  endpointCount : routes.tree.endpointCount = pairs.length
  /-- The table consists of what the operations claimed. -/
  inline : routes.inline = pairs.flatMap fun p => p.1.claims document order p.2
  /-- The identifiers are those of the operations. -/
  mem_operationIds : ∀ id, id ∈ routes.operationIds ↔
    ∃ p ∈ pairs, p.1.operation.operationId = some id
  /-- No two of the operations conflict. -/
  apart : pairs.Pairwise fun p q => ¬p.1.Conflicts q.1

/-- In the beginning, no operation has been added. -/
lemma built_nil : Built document order [] {} := by
  constructor
  case isEndpoint => simp
  case at?_iff => simp
  case endpointCount => rfl
  case inline => rfl
  case mem_operationIds => simp
  case apart => exact List.Pairwise.nil

/-- An operation that is added conflicts with none of the operations so far. -/
lemma Built.not_conflicts (h : Built document order pairs routes)
    (hadd : addSite document order routes s = .ok routes') {a : Site} {e : Endpoint}
    (ha : (a, e) ∈ pairs) : ¬a.Conflicts s := by
  obtain ⟨hnew, hfree, -⟩ := addOperation_eq_ok_iff.1 hadd
  rintro (⟨id, haid, hid⟩ | ⟨hkeys, hmethod⟩)
  · have hmem := (h.mem_operationIds id).2 ⟨(a, e), ha, haid⟩
    rw [Option.filter_eq_none_iff] at hnew
    exact hnew id hid (List.contains_iff_mem.2 hmem)
  · have hbefore := (h.at?_iff _ _ _).2 ⟨a, ha, hkeys, hmethod⟩
    exact Option.some_ne_none e (hbefore.symm.trans hfree)

/-- A conflict at an operation is one with an operation before it. -/
lemma Built.exists_clash (h : Built document order pairs routes) {conflict : Conflict}
    (hadd : addSite document order routes s = .error conflict) :
    ∃ p ∈ pairs, Site.Clash conflict p.1 s := by
  rcases addOperation_eq_error hadd with ⟨id, hid, hmem, rfl⟩ | ⟨previous, hat, rfl⟩
  · obtain ⟨p, hp, hp'⟩ := (h.mem_operationIds id).1 hmem
    exact ⟨p, hp, .operationId hp' hid⟩
  · obtain ⟨a, ha, hkeys, hmethod⟩ := (h.at?_iff _ _ _).1 hat
    refine ⟨(a, previous), ha, ?_⟩
    rw [(h.isEndpoint _ ha).path_eq]
    exact .route hkeys hmethod

/-- An operation that is added is listed, with its endpoint, behind those before it. -/
lemma Built.add (h : Built document order pairs routes)
    (hadd : addSite document order routes s = .ok routes') :
    ∃ e, Built document order (pairs ++ [(s, e)]) routes' := by
  have hapart : ∀ p ∈ pairs, ¬p.1.Conflicts s := fun _ hp => h.not_conflicts hadd hp
  obtain ⟨-, hfree, rfl⟩ := addOperation_eq_ok_iff.1 hadd
  obtain ⟨hendpoint, htable⟩ := isEndpoint_endpointOf document order routes.inline s
  generalize endpointOf document order routes.inline s.path s.item s.method s.operation = added
    at hendpoint htable
  obtain ⟨e, table⟩ := added
  dsimp only at hendpoint htable hfree
  refine ⟨e, ?_⟩
  constructor
  case isEndpoint =>
    intro p hp
    rcases List.mem_append.1 hp with hp | hp
    · exact h.isEndpoint p hp
    · obtain rfl := List.mem_singleton.1 hp
      exact hendpoint
  case at?_iff =>
    intro keys method found
    dsimp only
    rw [RouteTree.at?_insert, hendpoint.method_eq]
    split
    · next hplace =>
      obtain ⟨rfl, rfl⟩ := hplace
      constructor
      · rintro ⟨rfl⟩
        exact ⟨s, by simp, rfl, rfl⟩
      · rintro ⟨a, ha, hkeys, hmethod⟩
        rcases List.mem_append.1 ha with ha | ha
        · -- The place was free, so no operation before had it.
          have hbefore := (h.at?_iff _ _ _).2 ⟨a, ha, hkeys, hmethod⟩
          rw [hfree] at hbefore
          cases hbefore
        · obtain ⟨rfl, rfl⟩ := Prod.mk.inj (List.mem_singleton.1 ha)
          rfl
    · next hplace =>
      rw [h.at?_iff]
      constructor
      · rintro ⟨a, ha, hkeys, hmethod⟩
        exact ⟨a, List.mem_append_left _ ha, hkeys, hmethod⟩
      · rintro ⟨a, ha, rfl, rfl⟩
        rcases List.mem_append.1 ha with ha | ha
        · exact ⟨a, ha, rfl, rfl⟩
        · obtain ⟨rfl, rfl⟩ := Prod.mk.inj (List.mem_singleton.1 ha)
          exact absurd ⟨rfl, rfl⟩ hplace
  case endpointCount =>
    dsimp only
    rw [RouteTree.endpointCount_insert, hendpoint.method_eq, hfree, h.endpointCount,
      List.length_append]
    rfl
  case inline =>
    dsimp only
    rw [htable, h.inline, List.flatMap_append, List.flatMap_singleton]
  case mem_operationIds =>
    intro id
    simp only [List.mem_append, Option.mem_toList, h.mem_operationIds, List.mem_singleton,
      or_and_right, exists_or, exists_eq_left]
    exact or_comm
  case apart =>
    rw [List.pairwise_append]
    refine ⟨h.apart, List.pairwise_singleton _ _, fun p hp q hq => ?_⟩
    rw [List.mem_singleton.1 hq]
    exact hapart p hp

/-! ## All operations -/

/-- The routes after several operations. -/
lemma Built.addAll (h : Built document order pairs routes) {sites : List Site}
    (hadd : sites.foldlM (addSite document order) routes = .ok routes') :
    ∃ more, more.map Prod.fst = sites ∧ Built document order (pairs ++ more) routes' := by
  induction sites generalizing pairs routes with
  | nil =>
    rw [List.foldlM_nil] at hadd
    cases hadd
    exact ⟨[], rfl, by rwa [List.append_nil]⟩
  | cons s rest ih =>
    rw [List.foldlM_cons, Except.bind_eq_ok_iff] at hadd
    obtain ⟨mid, hmid, hrest⟩ := hadd
    obtain ⟨e, he⟩ := h.add hmid
    obtain ⟨more, rfl, hmore⟩ := ih he hrest
    exact ⟨(s, e) :: more, rfl, by rwa [List.append_assoc] at hmore⟩

/-- The routes of a description are those of its operations, with the keys that collide renamed. -/
lemma ofDocument_eq (document : Document) (order : SchemaOrder) :
    ofDocument document order =
      (document.sites.foldlM (addSite document order) {}).map fun routes =>
        { routes with tree := routes.tree.resolveCollisions } := by
  rw [Document.sites, Except.foldlM_flatMap]
  simp only [List.foldlM_map]
  rfl

/-- What the routes of a description are: its operations have been added, each with an endpoint, and
the keys that collide have been renamed. -/
lemma exists_built (h : ofDocument document order = .ok routes) :
    ∃ pairs built, pairs.map Prod.fst = document.sites ∧ Built document order pairs built ∧
      routes = { built with tree := built.tree.resolveCollisions } := by
  rw [ofDocument_eq, Except.map_eq_ok_iff] at h
  obtain ⟨built, hbuilt, rfl⟩ := h
  obtain ⟨pairs, hsites, hpairs⟩ := built_nil.addAll hbuilt
  exact ⟨pairs, built, hsites, hpairs, rfl⟩

/-- A conflict in a description is one between two of its operations. -/
lemma exists_clash_of_ofDocument {conflict : Conflict}
    (h : ofDocument document order = .error conflict) :
    ∃ a b, [a, b].Sublist document.sites ∧ Site.Clash conflict a b := by
  rw [ofDocument_eq, Except.map_eq_error_iff] at h
  obtain ⟨before, s, after, mid, hsites, hmid, hs⟩ := Except.foldlM_eq_error h
  obtain ⟨pairs, hpairs, hbuilt⟩ := built_nil.addAll hmid
  obtain ⟨p, hp, hclash⟩ := hbuilt.exists_clash hs
  refine ⟨p.1, s, ?_, hclash⟩
  have hbefore : p.1 ∈ before := hpairs ▸ List.mem_map_of_mem hp
  have hfirst : [p.1].Sublist before := List.singleton_sublist.2 hbefore
  have hsecond : [s].Sublist (s :: after) := List.singleton_sublist.2 List.mem_cons_self
  rw [hsites]
  exact hfirst.append hsecond

/-- The routes of a description come about if and only if no two of its operations conflict. -/
theorem exists_ofDocument_iff :
    (∃ routes, ofDocument document order = .ok routes) ↔
      document.sites.Pairwise fun a b => ¬a.Conflicts b := by
  constructor
  · rintro ⟨routes, h⟩
    obtain ⟨pairs, built, hsites, hbuilt, -⟩ := exists_built h
    rw [← hsites, List.pairwise_map]
    exact hbuilt.apart
  · intro hapart
    cases h : ofDocument document order with
    | ok routes => exact ⟨routes, rfl⟩
    | error conflict =>
      obtain ⟨a, b, hsub, hclash⟩ := exists_clash_of_ofDocument h
      exact absurd hclash.conflicts (List.pairwise_pair.1 (hapart.sublist hsub))

end Routes

end TypedClient
