import TypedClient.Schema.Basic
import TypedClient.Schema.Pointer

/-!
# API descriptions

The parts of an API description that a client is made from: named schemas and parameters, and for
each path its operations, with what they take and what they answer.
-/

namespace TypedClient

/-- Where a parameter is carried. -/
inductive Location where
  | query
  | path
  | header
  | cookie
  | other
deriving DecidableEq

/-- A parameter, or a reference to one. -/
structure Parameter where
  /-- The pointer to a named parameter, if it is a reference. -/
  reference : Option String := none
  /-- The name. -/
  name : String := ""
  /-- Where it is carried. -/
  location : Location := .other
  /-- Whether it must be given. -/
  required : Bool := false
  /-- A description for human readers. -/
  description : Option String := none
  /-- The schema of its value. -/
  schema : Option Schema := none

/-- What an operation takes or answers: for each media type the schema, if there is one. -/
structure Body where
  /-- The media types. -/
  content : Entries (Option Schema) := []

/-- An operation. -/
structure Operation where
  /-- Its identifier. -/
  operationId : Option String := none
  /-- A summary for human readers. -/
  summary : Option String := none
  /-- The parameters of its own. -/
  parameters : List Parameter := []
  /-- What it takes. -/
  requestBody : Option Body := none
  /-- What it answers, by status code. -/
  responses : Entries Body := []

/-- What can be done at a path. -/
structure PathItem where
  /-- The operations by method, which is in lower case. -/
  operations : Entries Operation := []
  /-- The parameters that all operations share. -/
  parameters : List Parameter := []

/-- The named parts of a description. -/
structure Components where
  /-- The schemas, if there is a place for them. -/
  schemas : Option (Entries Schema) := none
  /-- The parameters. -/
  parameters : Entries Parameter := []

/-- An API description. -/
structure Document where
  /-- The named parts. -/
  components : Option Components := none
  /-- The paths. -/
  paths : Entries PathItem := []

/-- The media type whose schemas count. -/
def jsonMediaType : String := "application/json"

/-- The schema of the JSON form of a body. -/
def Body.jsonSchema? (body : Body) : Option Schema := (body.content.get? jsonMediaType).join

namespace Operation

/-- The schema of the JSON that the operation takes. -/
def requestSchema? (operation : Operation) : Option Schema :=
  operation.requestBody.bind Body.jsonSchema?

/-- The codes under which the answer to a successful call is looked for, in this order. -/
def successCodes : List String := ["200", "201", "default"]

/-- The answer to a successful call. -/
def successResponse? (operation : Operation) : Option Body :=
  successCodes.findSome? operation.responses.get?

/-- The schema of the JSON answer to a successful call. -/
def responseSchema? (operation : Operation) : Option Schema :=
  operation.successResponse?.bind Body.jsonSchema?

end Operation

namespace Document

/-- The named schemas, if there is a place for them. -/
def schemas? (document : Document) : Option (Entries Schema) :=
  document.components.bind Components.schemas

/-- The parameter that a reference leads to; a parameter that is no reference is itself the answer,
and a reference is followed one step. -/
def resolve? (document : Document) (parameter : Parameter) : Option Parameter :=
  match parameter.reference with
  | none => some parameter
  | some pointer =>
    (Pointer.parameterName? pointer).bind fun name =>
      document.components.bind fun components => components.parameters.get? name

end Document

end TypedClient
