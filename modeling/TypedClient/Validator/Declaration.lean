import TypedClient.Validator.OfSchema

/-!
# Declarations

A declaration gives a name to a validator.  The named schemas of a document are declared in their
order; a declaration is deferred if it, or one before it, refers to its name, for then the name is
in use before its validator exists.
-/

namespace TypedClient

/-- A named validator. -/
structure Declaration where
  /-- The name. -/
  name : String
  /-- The validator. -/
  validator : Validator
  /-- Whether the name is referred to before its declaration ends. -/
  deferred : Bool

namespace Declaration

/-- The names of an order with their schemas, in that order. -/
def inOrder (schemas : Entries Schema) (order : SchemaOrder) : List (String × Schema) :=
  order.names.filterMap fun name => (schemas.get? name).map fun s => (name, s)

/-- What is to be noted about the schemas of an order, in that order. -/
def notices (schemas : Entries Schema) (order : SchemaOrder) : List Notice :=
  (inOrder schemas order).flatMap fun e => e.2.notices order e.1

/-- The declarations of the schemas of an order; in strict mode, the first degradation instead. -/
def ofSchemas (strict : Bool) (schemas : Entries Schema) (order : SchemaOrder) :
    Except Degradation (List Declaration) :=
  let noted := notices schemas order
  let forward := Notice.forwards noted
  Notice.guard strict noted <| (inOrder schemas order).map fun e =>
    ⟨e.1, e.2.validator order e.1, forward.contains e.1⟩

/-- The declarations of the schemas of single operations; in strict mode, the first degradation
instead.  Nothing refers to them, so none is deferred. -/
def ofInline (strict : Bool) (schemas : Entries Schema) (order : SchemaOrder) :
    Except Degradation (List Declaration) :=
  Notice.guard strict (schemas.flatMap fun e => e.2.notices order e.1) <|
    schemas.map fun e => ⟨e.1, e.2.validator order e.1, false⟩

end Declaration

/-- The registry of a list of declarations. -/
def Registry.ofDeclarations (declarations : List Declaration) : Registry :=
  Entries.ofList (declarations.map fun d => (d.name, d.validator))

end TypedClient
