import TypedClient.Json.Printer
import TypedClient.TypeScript.Identifiers

/-!
# Expressions for validators

The expression of the library `zod` that a validator is written as.  The fields of an object stand on
lines of their own, two spaces deeper than the line on which the object begins; all other expressions
are written without a line end of their own.
-/

namespace TypedClient.TypeScript

/-- The key of a member of an object literal: without quotes where the language allows it. -/
def objectKey (key : String) : List Char :=
  if Naming.isPlainKey key then key.toList else Json.quote key.toList

/-- A text on one line: its words with single spaces between them. -/
def singleLine (text : String) : List Char :=
  Text.join [' '] (Text.wordsBetween Text.isBlank text.toList)

/-- A text with its further lines moved to the right by two spaces. -/
def deepen (text : List Char) : List Char :=
  text.flatMap fun c => if c = '\n' then ['\n', ' ', ' '] else [c]

/-- What is written behind an object for its mode. -/
def modeSuffix : Mode → String
  | .strip => ""
  | .strict => ".strict()"
  | .passthrough => ".passthrough()"

/-- The comment behind a field. -/
def fieldComment : Option String → List Char
  | none => []
  | some text => " // ".toList ++ singleLine text

/-- The line of a field with a given expression. -/
def fieldLine (name : String) (expression : List Char) (description : Option String) : List Char :=
  "  ".toList ++ objectKey name ++ ": ".toList ++ deepen expression ++ [','] ++
    fieldComment description ++ ['\n']

mutual

/-- The expression of a validator. -/
def expression (ids : Identifiers) : Validator → List Char
  | .string => "z.string()".toList
  | .number => "z.number()".toList
  | .boolean => "z.boolean()".toList
  | .any => "z.any()".toList
  | .object fields mode =>
    "z.object(\x7b".toList ++ (if fields.isEmpty then [] else ['\n']) ++ fieldLines ids fields ++
      "\x7d)".toList ++ (modeSuffix mode).toList
  | .array items => "z.array(".toList ++ expression ids items ++ [')']
  | .union [] => "z.any()".toList
  | .union [only] => expression ids only
  | .union members => "z.union([".toList ++ memberList ids members ++ "])".toList
  | .nullable inner => expression ids inner ++ ".nullable()".toList
  | .optional inner => expression ids inner ++ ".optional()".toList
  | .reference name false => (ids.schemaName name).toList
  | .reference name true => "z.lazy(() => ".toList ++ (ids.schemaName name).toList ++ [')']

/-- The lines of the fields of an object. -/
def fieldLines (ids : Identifiers) : List (Field Validator) → List Char
  | [] => []
  | ⟨name, v, description⟩ :: rest =>
    fieldLine name (expression ids v) description ++ fieldLines ids rest

/-- The expressions of the members of a union, with commas between them. -/
def memberList (ids : Identifiers) : List Validator → List Char
  | [] => []
  | [v] => expression ids v
  | v :: rest => expression ids v ++ ", ".toList ++ memberList ids rest

end

/-- The declaration of the validator of a schema. -/
def declarationText (ids : Identifiers) (d : Declaration) : String :=
  let name := "export const " ++ ids.schemaName d.name
  let value := String.ofList (expression ids d.validator)
  if d.deferred then name ++ ": z.ZodType<unknown> = z.lazy(() => " ++ value ++ ");"
  else name ++ " = " ++ value ++ ";"

/-- The declaration of the type of a schema. -/
def typeText (ids : Identifiers) (d : Declaration) : String :=
  "export type " ++ ids.typeName d.name ++ " = z.infer<typeof " ++ ids.schemaName d.name ++ ">;"

end TypedClient.TypeScript
