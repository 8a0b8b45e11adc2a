import TypedClient.Json.Basic
import TypedClient.Schema.Basic

/-!
# Schemas from JSON

Every JSON value describes a schema; a value that is no object describes the schema without a type.

A reference takes precedence over every other keyword beside it.  `null` among the types, and the
keyword `nullable`, both make the schema nullable; of the types that remain, none leaves the schema
without a type, one gives its shape, and several give a union of their shapes.
-/

namespace TypedClient.Schema

/-- The names of the types in the keyword `type`, a single text or a list. -/
def typeNames (members : Entries Json) : List String :=
  match members.get? "type" with
  | some (.string name) => [name]
  | some (.array names) => names.filterMap Json.asString?
  | _ => []

/-- The names in the keyword `required`. -/
def requiredNames (members : Entries Json) : List String :=
  match members.get? "required" with
  | some (.array names) => names.filterMap Json.asString?
  | _ => []

/-- The notes of a schema object. -/
def notesOf (members : Entries Json) : Notes where
  nullable := ((members.get? "nullable").bind Json.asBool?).getD false ||
    (typeNames members).contains "null"
  description := (members.get? "description").bind Json.asString?

/-- The shape that one type name gives to an object, with the readings of its `items` and
`properties`. -/
def ofType (notes : Notes) (members : Entries Json) (items : Option Schema)
    (properties : Option (List (String × Schema))) (name : String) : Schema :=
  match name with
  | "string" => .primitive notes .string
  | "number" => .primitive notes .number
  | "integer" => .primitive notes .integer
  | "boolean" => .primitive notes .boolean
  | "object" =>
    let additional := (members.get? "additionalProperties").bind Json.asBool?
    match properties with
    | some ps => .object notes ps (requiredNames members) additional
    | none => .freeObject notes (requiredNames members) additional
  | "array" =>
    match items with
    | some s => .array notes s
    | none => .freeArray notes
  | other => .unknown notes (some other)

/-- The schema of an object, with the readings of its `items` and `properties`. -/
def ofMembers (members : Entries Json) (items : Option Schema)
    (properties : Option (List (String × Schema))) : Schema :=
  let notes := notesOf members
  match (members.get? "$ref").bind Json.asString? with
  | some pointer => .reference notes pointer
  | none =>
    match (typeNames members).filter (· != "null") with
    | [] => .unknown notes none
    | [name] => ofType notes members items properties name
    | names => .union notes (names.map (ofType {} members items properties))

mutual

/-- The schema that a JSON value describes. -/
def ofJson : Json → Schema
  | .object members => ofMembers members (itemsIn members) (propertiesIn members)
  | _ => .unknown {} none

/-- The schema under the keyword `items`. -/
def itemsIn : List (String × Json) → Option Schema
  | [] => none
  | (key, value) :: rest => if key = "items" then some (ofJson value) else itemsIn rest

/-- The properties under the keyword `properties`, if it holds an object. -/
def propertiesIn : List (String × Json) → Option (List (String × Schema))
  | [] => none
  | (key, value) :: rest =>
    if key = "properties" then
      match value with
      | .object properties => some (Entries.ofList (ofEach properties))
      | _ => none
    else propertiesIn rest

/-- The schemas that the members of an object describe. -/
def ofEach : List (String × Json) → List (String × Schema)
  | [] => []
  | (key, value) :: rest => (key, ofJson value) :: ofEach rest

end

end TypedClient.Schema
