import TypedClient.Document
import TypedClient.Document.Record
import TypedClient.Schema.OfJson
import TypedClient.Text.Blank

/-!
# API descriptions from JSON

The readers of the parts of an API description.  A path item is read member by member: a member named
like a method of HTTP, in any letter case, is an operation, and other members than these and the
shared parameters do not count.  Among the paths, names that begin with `x-` do not count.
-/

namespace TypedClient

/-- Reads a schema, which every value describes. -/
def Schema.reader : Reader Schema := fun value => .ok (Schema.ofJson value)

/-- The location with a name. -/
def Location.ofName : String → Location
  | "query" => .query
  | "path" => .path
  | "header" => .header
  | "cookie" => .cookie
  | _ => .other

/-- The fields of a parameter. -/
def Parameter.record : Record Parameter where
  name := "ParameterNode"
  blank := {}
  fields := [
    .of "$ref" (.option .string) fun p v => { p with reference := v },
    .withDefault "name" .string fun p v => { p with name := v },
    .withDefault "in" (.choice Location.ofName) fun p v => { p with location := v },
    .withDefault "required" .bool fun p v => { p with required := v },
    .of "description" (.option .string) fun p v => { p with description := v },
    .of "schema" (.option Schema.reader) fun p v => { p with schema := v }]

/-- The field of a media type. -/
def Body.mediaTypeRecord : Record (Option Schema) where
  name := "MediaTypeNode"
  blank := none
  fields := [.of "schema" (.option Schema.reader) fun _ v => v]

/-- The field of a body. -/
def Body.record : Record Body where
  name := "BodyNode"
  blank := {}
  fields := [.withDefault "content" (.map mediaTypeRecord.read) fun _ v => ⟨v⟩]

/-- The fields of an operation. -/
def Operation.record : Record Operation where
  name := "OperationNode"
  blank := {}
  fields := [
    .of "operationId" (.option .string) fun o v => { o with operationId := v },
    .of "summary" (.option .string) fun o v => { o with summary := v },
    .withDefault "parameters" (.list Parameter.record.read) fun o v => { o with parameters := v },
    .of "requestBody" (.option Body.record.read) fun o v => { o with requestBody := v },
    .withDefault "responses" (.map Body.record.read) fun o v => { o with responses := v }]

/-- The fields of the named parts. -/
def Components.record : Record Components where
  name := "ComponentsNode"
  blank := {}
  fields := [
    .withDefault "schemas" (.option (.map Schema.reader)) fun c v => { c with schemas := v },
    .withDefault "parameters" (.map Parameter.record.read) fun c v => { c with parameters := v }]

/-- The methods of HTTP that name an operation. -/
def httpMethods : List String :=
  ["get", "put", "post", "delete", "options", "head", "patch", "trace"]

namespace PathItem

/-- Reads a member of a path item. -/
def readMember (item : PathItem) (member : String × Json) : Except Mismatch PathItem :=
  let method := Text.asciiLower member.1
  if httpMethods.contains method then
    ((Operation.record.read member.2).mapError (.inOperation member.1)).map fun operation =>
      { item with operations := item.operations.put method operation }
  else if member.1 = "parameters" then
    ((Reader.list Parameter.record.read member.2).mapError .inSharedParameters).map
      fun parameters => { item with parameters }
  else .ok item

/-- Reads a path item. -/
def read : Reader PathItem := fun found =>
  (Reader.members found).bind fun members => members.foldlM readMember {}

end PathItem

namespace Document

/-- Whether the name of a path marks an extension. -/
def isExtension (path : String) : Bool := (Text.dropLeading? ['x', '-'] path.toList).isSome

/-- Reads the paths. -/
def readPaths : Reader (Entries PathItem) := fun found =>
  (Reader.members found).bind fun members =>
    ((members.filter fun m => !isExtension m.1).mapM fun m =>
      ((PathItem.read m.2).mapError (.atPath m.1)).map fun item => (m.1, item)).map Entries.ofList

/-- The fields of a description. -/
def record : Record Document where
  name := "SchemaDocument"
  blank := {}
  fields := [
    .withDefault "components" (.option Components.record.read) fun d v => { d with components := v },
    .withDefault "paths" readPaths fun d v => { d with paths := v }]

end Document

end TypedClient
