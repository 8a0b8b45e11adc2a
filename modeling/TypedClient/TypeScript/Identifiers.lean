import TypedClient.Naming
import TypedClient.Validator.Declaration

/-!
# Identifiers of declarations

Every declared name gets an identifier of its own, which is none of the names that a client module
declares for itself.  The type of a schema bears the identifier, and its validator the identifier
with `Schema` behind it.
-/

namespace TypedClient.TypeScript

/-- The names that a client module declares for itself. -/
def reserved : List String := [
  "z", "ClientConfig", "ApiRequestError", "ApiConfigError", "requireApiUrl", "readJson",
  "toQueryString", "createClient"]

/-- The identifiers of declared names. -/
structure Identifiers where
  /-- For each declared name its identifier. -/
  names : Entries String

namespace Identifiers

/-- Gives each name the first identifier that is not taken. -/
def assign (taken : List String) : List String → List (String × String)
  | [] => []
  | name :: rest =>
    let identifier := Naming.firstFree taken (Naming.identifier name)
    (name, identifier) :: assign (identifier :: taken) rest

/-- The identifiers of the names of declarations. -/
def ofDeclarations (declarations : List Declaration) : Identifiers :=
  ⟨Entries.ofList (assign reserved (declarations.map Declaration.name))⟩

/-- The name of the type of a schema. -/
def typeName (ids : Identifiers) (name : String) : String :=
  (ids.names.get? name).getD (Naming.identifier name)

/-- The name of the validator of a schema. -/
def schemaName (ids : Identifiers) (name : String) : String := ids.typeName name ++ "Schema"

end Identifiers

end TypedClient.TypeScript
