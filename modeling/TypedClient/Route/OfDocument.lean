import TypedClient.Document
import TypedClient.Naming
import TypedClient.Route.Inline
import TypedClient.Route.Tree

/-!
# The routes of an API description

Every operation becomes an endpoint.  A body or an answer that is a reference to a named schema bears
the name of that schema; any other body, and the query, gets a schema of its own.  Two operations
with one identifier, or with one route and one method, are a conflict.
-/

namespace TypedClient

/-- Two operations that cannot both be in a client. -/
inductive Conflict where
  /-- They bear the same identifier. -/
  | operationId (id : String)
  /-- Their paths lead to the same route, and they have the same method. -/
  | route (first second : String) (keys : List String) (method : String)
deriving DecidableEq

/-- The sentence that reports a conflict. -/
def Conflict.message : Conflict → String
  | .operationId id => "Duplicate operationId '" ++ id ++ "' detected"
  | .route first second keys method =>
    "Paths '" ++ first ++ "' and '" ++ second ++ "' both map to client route '" ++
      Text.joinStrings "." keys ++ "' for " ++ Text.upper method

namespace Document

/-- The parameters of an operation that are carried in the query, by name: those that the
operations of its path share, and its own, which take precedence. -/
def queryParameters (document : Document) (item : PathItem) (operation : Operation) :
    Entries Parameter :=
  let resolved := (item.parameters ++ operation.parameters).filterMap document.resolve?
  Entries.ofList ((resolved.filter fun p => p.location = .query).map fun p => (p.name, p))

end Document

/-- The schema of the value of a parameter. -/
def Parameter.valueSchema (parameter : Parameter) : Schema :=
  let schema := parameter.schema.getD (.unknown {} none)
  match parameter.description with
  | some text => schema.describedAs text
  | none => schema

/-- The schema of a query with given parameters, if there are any. -/
def querySchema? (parameters : Entries Parameter) : Option Schema :=
  if parameters.isEmpty then none
  else
    some (.object {} (parameters.mapValues Parameter.valueSchema)
      ((parameters.filter fun p => p.2.required).map Prod.fst) none)

/-- The name of the named schema that a schema refers to. -/
def Schema.component? (order : SchemaOrder) (schema : Schema) : Option String :=
  schema.pointer?.bind order.target?

/-- The routes found so far. -/
structure Routes where
  /-- The tree of endpoints. -/
  tree : RouteTree := .empty
  /-- The schemas of single operations. -/
  inline : InlineSchemas := []
  /-- The identifiers of the operations. -/
  operationIds : List String := []

namespace Routes

/-- The endpoint of an operation, and the table with the schemas of its own. -/
def endpointOf (document : Document) (order : SchemaOrder) (inline : InlineSchemas) (path : String)
    (item : PathItem) (method : String) (operation : Operation) : Endpoint × InlineSchemas :=
  let claim := fun (table : InlineSchemas) suffix (schema : Schema) =>
    let (name, table) :=
      table.claim order (Naming.inputName operation.operationId method path suffix) schema
    (some name, table)
  let (body, inline) := match operation.requestSchema? with
    | none => (none, inline)
    | some schema =>
      match schema.component? order with
      | some name => (some name, inline)
      | none => claim inline "Input" schema
  let (query, inline) := match querySchema? (document.queryParameters item operation) with
    | none => (none, inline)
    | some schema => claim inline "Query" schema
  ({ method, path, query, body,
     operationId := operation.operationId
     summary := operation.summary
     response := operation.responseSchema?.bind (Schema.component? order) }, inline)

/-- Adds an operation. -/
def addOperation (document : Document) (order : SchemaOrder) (path : String) (item : PathItem)
    (routes : Routes) (entry : String × Operation) : Except Conflict Routes :=
  let (method, operation) := entry
  match operation.operationId.filter routes.operationIds.contains with
  | some id => .error (.operationId id)
  | none =>
    let keys := Naming.routeKeys path
    let (endpoint, inline) := endpointOf document order routes.inline path item method operation
    match routes.tree.at? keys method with
    | some previous => .error (.route previous.path path keys method)
    | none =>
      .ok {
        tree := routes.tree.insert endpoint keys
        inline
        operationIds := operation.operationId.toList ++ routes.operationIds }

/-- Adds the operations of a path. -/
def addPath (document : Document) (order : SchemaOrder) (routes : Routes)
    (entry : String × PathItem) : Except Conflict Routes :=
  entry.2.operations.foldlM (addOperation document order entry.1 entry.2) routes

/-- The routes of a description, with the keys that collide with methods renamed. -/
def ofDocument (document : Document) (order : SchemaOrder) : Except Conflict Routes :=
  (document.paths.foldlM (addPath document order) {}).map fun routes =>
    { routes with tree := routes.tree.resolveCollisions }

end Routes

end TypedClient
