import TypedClient.Schema.Order
import TypedClient.Validator.Basic

/-!
# Validators of schemas

Every schema has a validator.  `Schema.validator` is the validator of a schema that is declared
under a name, in which the properties of an object are spelled out; `Schema.partValidator` is the
one of a schema that is a part of another, in which an object stands for any object.

Where a schema says something that no validator expresses, or nothing at all, its validator accepts
anything in that place.  Such a loss is noted, and so is each forward reference: `Schema.notices`
and `Schema.partNotices` list both in the order in which they occur from left to right.  In strict
mode the first loss is an error (`Compilation.result`).
-/

namespace TypedClient

/-- A place where a validator accepts more than its schema says. -/
inductive Loss where
  /-- A schema of this kind, declared under a name, becomes a validator that accepts anything. -/
  | wholeSchema (kind : String)
  /-- A part of this kind becomes a validator that accepts anything. -/
  | part (kind : String)
  /-- An array without a schema for its items accepts any items. -/
  | items
  /-- A pointer leads to no schema of the document. -/
  | unresolved (pointer : String)
deriving DecidableEq

/-- The sentence that reports a loss. -/
def Loss.message : Loss → String
  | .wholeSchema kind => "top-level " ++ kind ++ " compiles to any"
  | .part kind => kind ++ " compiles to any"
  | .items => "array without `items` accepts any element"
  | .unresolved pointer => "unresolvable $ref `" ++ pointer ++ "` compiles to any"

/-- A loss in the schema declared under a name. -/
structure Degradation where
  /-- The name. -/
  schema : String
  /-- The loss. -/
  loss : Loss
deriving DecidableEq

/-- The sentence that reports a loss in a schema. -/
def Degradation.message (d : Degradation) : String :=
  "schema `" ++ d.schema ++ "`: " ++ d.loss.message

/-- Something worth noting about the validator of a schema. -/
inductive Notice where
  /-- The validator accepts more than the schema says. -/
  | degraded (degradation : Degradation)
  /-- The validator refers to a name that is not declared earlier. -/
  | forward (name : String)
deriving DecidableEq

namespace Schema

/-- What a schema is, in words. -/
def kind : Schema → String
  | .reference _ pointer => "$ref `" ++ pointer ++ "`"
  | .object _ _ _ _ => "object"
  | .freeObject _ _ _ => "object without `properties`"
  | .array _ _ => "array"
  | .freeArray _ => "array without `items`"
  | .primitive _ type => type.name ++ " schema"
  | .union _ _ => "type union"
  | .unknown _ (some type) => "unknown type `" ++ type ++ "`"
  | .unknown _ none => "schema without `type`"

/-- Lets a validator accept `null` as well, if the notes say so. -/
def orNull (notes : Notes) (v : Validator) : Validator :=
  if notes.nullable then .nullable v else v

/-- The validator of a pointer in the schema declared under the name `current`. -/
def pointerValidator (order : SchemaOrder) (current pointer : String) : Validator :=
  match order.target? pointer with
  | some target => .reference target (order.isForward current target)
  | none => .any

/-- What is to be noted about a pointer in the schema declared under the name `current`. -/
def pointerNotices (order : SchemaOrder) (current pointer : String) : List Notice :=
  match order.target? pointer with
  | some target => if order.isForward current target then [.forward target] else []
  | none => [.degraded ⟨current, .unresolved pointer⟩]

mutual

/-- The validator of a schema that is part of the schema declared under the name `current`. -/
def partValidator (order : SchemaOrder) (current : String) : Schema → Validator
  | .reference n pointer => orNull n (pointerValidator order current pointer)
  | .object n _ _ _ => orNull n Validator.openObject
  | .freeObject n _ _ => orNull n Validator.openObject
  | .array n items => orNull n (.array (items.partValidator order current))
  | .freeArray n => orNull n (.array .any)
  | .primitive n .string => orNull n .string
  | .primitive n .number => orNull n .number
  | .primitive n .integer => orNull n .number
  | .primitive n .boolean => orNull n .boolean
  | .union n members => orNull n (.union (memberValidators order current members))
  | .unknown n _ => orNull n .any

/-- The validators of the members of a union. -/
def memberValidators (order : SchemaOrder) (current : String) : List Schema → List Validator
  | [] => []
  | s :: rest => s.partValidator order current :: memberValidators order current rest

end

mutual

/-- What is to be noted about a schema that is part of the schema declared under the name
`current`. -/
def partNotices (order : SchemaOrder) (current : String) : Schema → List Notice
  | .reference _ pointer => pointerNotices order current pointer
  | .object _ _ _ _ => []
  | .freeObject _ _ _ => []
  | .array _ items => items.partNotices order current
  | .freeArray _ => [.degraded ⟨current, .items⟩]
  | .primitive _ _ => []
  | .union _ members => memberNotices order current members
  | .unknown n type => [.degraded ⟨current, .part (kind (.unknown n type))⟩]

/-- What is to be noted about the members of a union. -/
def memberNotices (order : SchemaOrder) (current : String) : List Schema → List Notice
  | [] => []
  | s :: rest => s.partNotices order current ++ memberNotices order current rest

end

/-- The field of a property: optional unless its name is required. -/
def propertyField (order : SchemaOrder) (current : String) (required : List String)
    (property : String × Schema) : Field Validator where
  name := property.1
  body :=
    let v := property.2.partValidator order current
    if required.contains property.1 then v else .optional v
  description := property.2.description

/-- The validator of the schema declared under the name `current`. -/
def validator (order : SchemaOrder) (current : String) : Schema → Validator
  | .object n properties required additional =>
    orNull n (.object (properties.map (propertyField order current required))
      (if additional = some false then .strict else .strip))
  | .array n items => orNull n (.array (items.partValidator order current))
  | _ => .any

/-- What is to be noted about the schema declared under the name `current`. -/
def notices (order : SchemaOrder) (current : String) : Schema → List Notice
  | .object _ properties _ _ => properties.flatMap fun p => p.2.partNotices order current
  | .array _ items => items.partNotices order current
  | s => [.degraded ⟨current, .wholeSchema s.kind⟩]

end Schema

/-- A validator with what is to be noted about it. -/
structure Compilation where
  /-- The validator. -/
  validator : Validator
  /-- The notices, in order. -/
  notices : List Notice

namespace Compilation

/-- The compilation of the schema declared under the name `current`. -/
def ofSchema (order : SchemaOrder) (current : String) (s : Schema) : Compilation :=
  ⟨s.validator order current, s.notices order current⟩

/-- The compilation of a schema that is part of the schema declared under the name `current`. -/
def ofPart (order : SchemaOrder) (current : String) (s : Schema) : Compilation :=
  ⟨s.partValidator order current, s.partNotices order current⟩

end Compilation

namespace Notice

/-- The degradation that a notice reports. -/
def degradation? : Notice → Option Degradation
  | .degraded d => some d
  | .forward _ => none

/-- The name of the forward reference that a notice reports. -/
def forward? : Notice → Option String
  | .degraded _ => none
  | .forward name => some name

/-- The first degradation of a list of notices. -/
def firstDegradation (notices : List Notice) : Option Degradation :=
  notices.findSome? degradation?

/-- The notices that come up before the work stops: in strict mode, those before the first
degradation. -/
def reached (strict : Bool) (notices : List Notice) : List Notice :=
  if strict then notices.takeWhile fun notice => notice.degradation?.isNone else notices

/-- The names of the forward references of a list of notices. -/
def forwards (notices : List Notice) : List String := notices.filterMap forward?

/-- In strict mode, the first degradation of a list of notices instead of a value. -/
def guard {α : Type} (strict : Bool) (notices : List Notice) (value : α) : Except Degradation α :=
  match strict, firstDegradation notices with
  | true, some d => .error d
  | _, _ => .ok value

end Notice

/-- The validator; in strict mode, the first degradation instead. -/
def Compilation.result (strict : Bool) (c : Compilation) : Except Degradation Validator :=
  Notice.guard strict c.notices c.validator

end TypedClient
