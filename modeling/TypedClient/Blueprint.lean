import TypedClient.Fault
import TypedClient.Route.OfDocument
import TypedClient.Validator.Declaration

/-!
# Blueprints

A blueprint holds everything that a client consists of, in no particular language: the declarations
of its validators and the tree of its routes.
-/

namespace TypedClient

/-- What a client consists of. -/
structure Blueprint where
  /-- The declarations of the named schemas. -/
  components : List Declaration
  /-- The declarations of the schemas of single operations. -/
  inline : List Declaration
  /-- The routes. -/
  tree : RouteTree

namespace Blueprint

/-- Why a description has no blueprint. -/
inductive Failure where
  /-- It has no place for named schemas. -/
  | noSchemas
  /-- In strict mode, a schema is not expressed in full. -/
  | degraded (degradation : Degradation)
  /-- Two operations exclude each other. -/
  | conflict (conflict : Conflict)
deriving DecidableEq

/-- The fault that reports why a description has no blueprint. -/
def Failure.toFault : Failure → Fault
  | .noSchemas => .input "No components.schemas found in OpenAPI spec"
  | .degraded d => .compile d.message
  | .conflict c => .input c.message

/-- The blueprint of the client for a description. -/
def ofDocument (strict : Bool) (document : Document) : Except Failure Blueprint :=
  match document.schemas? with
  | none => .error .noSchemas
  | some schemas => do
    let order := SchemaOrder.ofSchemas schemas
    let components ← (Declaration.ofSchemas strict schemas order).mapError .degraded
    let routes ← (Routes.ofDocument document order).mapError .conflict
    let inline ← (Declaration.ofInline strict routes.inline order).mapError .degraded
    return { components, inline, tree := routes.tree }

/-- All declarations, those of the named schemas first. -/
def declarations (blueprint : Blueprint) : List Declaration :=
  blueprint.components ++ blueprint.inline

/-- The validators of all declarations. -/
def registry (blueprint : Blueprint) : Registry := Registry.ofDeclarations blueprint.declarations

end Blueprint

end TypedClient
