import TypedClient.Entries

/-!
# Schemas

The schemas that this library understands, as a closed type.  A schema says what shape a JSON value
has; apart from the shape it may carry two notes, that `null` is accepted as well and a description.

`Schema.references` lists the pointers of a schema from left to right, in all the places that hold a
schema.
-/

namespace TypedClient

/-- What a schema says beside its shape. -/
structure Notes where
  /-- Whether `null` is accepted in addition to the shape. -/
  nullable : Bool := false
  /-- A description for human readers. -/
  description : Option String := none
deriving DecidableEq, Inhabited

/-- The types of values without parts. -/
inductive Primitive where
  | string
  | number
  | integer
  | boolean
deriving DecidableEq

/-- The name of a primitive type. -/
def Primitive.name : Primitive → String
  | .string => "string"
  | .number => "number"
  | .integer => "integer"
  | .boolean => "boolean"

/-- A schema. -/
inductive Schema where
  /-- The schema that a pointer leads to. -/
  | reference (notes : Notes) (pointer : String)
  /-- Objects with declared properties; `additional` is the truth value of
  `additionalProperties`, where one is given. -/
  | object (notes : Notes) (properties : List (String × Schema)) (required : List String)
      (additional : Option Bool)
  /-- Objects, with no declaration of their properties. -/
  | freeObject (notes : Notes) (required : List String) (additional : Option Bool)
  /-- Arrays whose items follow a schema. -/
  | array (notes : Notes) (items : Schema)
  /-- Arrays, with no schema for their items. -/
  | freeArray (notes : Notes)
  /-- Values of a primitive type. -/
  | primitive (notes : Notes) (type : Primitive)
  /-- Values of one of several types. -/
  | union (notes : Notes) (members : List Schema)
  /-- A schema without a type, or with a type that has no meaning here. -/
  | unknown (notes : Notes) (type : Option String)
deriving Inhabited

namespace Schema

/-- What the schema says beside its shape. -/
def notes : Schema → Notes
  | reference n _ | object n _ _ _ | freeObject n _ _ | array n _ | freeArray n | primitive n _
  | union n _ | unknown n _ => n

/-- The schema of the same shape with other notes. -/
def withNotes (n : Notes) : Schema → Schema
  | reference _ pointer => reference n pointer
  | object _ properties required additional => object n properties required additional
  | freeObject _ required additional => freeObject n required additional
  | array _ items => array n items
  | freeArray _ => freeArray n
  | primitive _ type => primitive n type
  | union _ members => union n members
  | unknown _ type => unknown n type

/-- Whether `null` is accepted in addition to the shape. -/
def nullable (s : Schema) : Bool := s.notes.nullable

/-- The description, if there is one. -/
def description (s : Schema) : Option String := s.notes.description

/-- The schema with another description. -/
def describedAs (text : String) (s : Schema) : Schema :=
  s.withNotes { s.notes with description := some text }

/-- The pointer, if the schema is a reference. -/
def pointer? : Schema → Option String
  | reference _ pointer => some pointer
  | _ => none

mutual

/-- The pointers in a schema, from left to right. -/
def references : Schema → List String
  | reference _ pointer => [pointer]
  | object _ properties _ _ => referencesOfProperties properties
  | array _ items => items.references
  | union _ members => referencesOfMembers members
  | _ => []

/-- The pointers in a list of properties. -/
def referencesOfProperties : List (String × Schema) → List String
  | [] => []
  | (_, s) :: rest => s.references ++ referencesOfProperties rest

/-- The pointers in a list of schemas. -/
def referencesOfMembers : List Schema → List String
  | [] => []
  | s :: rest => s.references ++ referencesOfMembers rest

end

@[simp] theorem notes_withNotes (n : Notes) (s : Schema) : (s.withNotes n).notes = n := by
  cases s <;> rfl

end Schema

end TypedClient
