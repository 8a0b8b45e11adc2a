import TypedClient.Naming
import TypedClient.Schema.Order

/-!
# Schemas of single operations

A query, or a body that is no named schema, gets a name of its own.  `InlineSchemas.claim` takes the
wanted name, or the first of the wanted name with `2`, `3`, … behind it that neither a named schema
nor another operation has.
-/

namespace TypedClient

/-- The schemas of single operations, in the order in which they were claimed. -/
abbrev InlineSchemas := Entries Schema

/-- Stores a schema under a free name; the answer is that name and the table. -/
def InlineSchemas.claim (order : SchemaOrder) (table : InlineSchemas) (wanted : String)
    (schema : Schema) : String × InlineSchemas :=
  let name := Naming.firstFree (Entries.keys table ++ order.names) wanted
  (name, Entries.put table name schema)

end TypedClient
