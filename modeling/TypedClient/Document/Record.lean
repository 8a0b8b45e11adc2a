import TypedClient.Json.Printer
import TypedClient.Text.Quoted

/-!
# Reading typed parts from JSON

Readers for texts, truth values, lists, maps and records.  A record is read from an object, whose
unknown members do not count, or from an array, by the order of its fields (`Record.read`).  The
first thing that does not fit, from left to right, is reported as a `Mismatch`.
-/

namespace TypedClient

/-- What a reader expects. -/
inductive Expected where
  | string
  | boolean
  | map
  | sequence
  | nothing
  | stringOrMap
  | record (name : String)
deriving DecidableEq

/-- What a reader expects, in words. -/
def Expected.text : Expected → String
  | .string => "a string"
  | .boolean => "a boolean"
  | .map => "a map"
  | .sequence => "a sequence"
  | .nothing => "unit"
  | .stringOrMap => "string or map"
  | .record name => "struct " ++ name

/-- Why a description cannot be read. -/
inductive Mismatch where
  /-- A value has another type than the expected one. -/
  | wrongType (found : Json) (expected : Expected)
  /-- A map stands for a choice, and has not exactly one member. -/
  | notOneKey
  /-- An array ends before a field of a record that it must contain. -/
  | tooShort (length : Nat) (record : String) (fields : Nat)
  /-- An array has more items than a record has fields. -/
  | tooLong (length : Nat)
  /-- Something is wrong at a path. -/
  | atPath (path : String) (cause : Mismatch)
  /-- Something is wrong in an operation. -/
  | inOperation (method : String) (cause : Mismatch)
  /-- Something is wrong in the parameters that the operations of a path share. -/
  | inSharedParameters (cause : Mismatch)

namespace Mismatch

/-- A value, as it is mentioned in a message. -/
def describe : Json → String
  | .null => "null"
  | .bool b => "boolean `" ++ (if b then "true" else "false") ++ "`"
  | .number (.int n) => "integer `" ++ (Number.int n).render ++ "`"
  | .number (.float x) => "floating point `" ++ (Number.float x).render ++ "`"
  | .string s => "string " ++ Text.quoted s
  | .array _ => "sequence"
  | .object _ => "map"

/-- The sentence that reports a mismatch. -/
def message : Mismatch → String
  | .wrongType found expected =>
    "invalid type: " ++ describe found ++ ", expected " ++ expected.text
  | .notOneKey => "invalid value: map, expected map with a single key"
  | .tooShort length record fields =>
    "invalid length " ++ toString length ++ ", expected struct " ++ record ++ " with " ++
      toString fields ++ (if fields = 1 then " element" else " elements")
  | .tooLong length =>
    "invalid length " ++ toString length ++ ", expected fewer elements in array"
  | .atPath path cause => "Failed to parse path item '" ++ path ++ "': " ++ cause.message
  | .inOperation method cause => "Failed to parse '" ++ method ++ "' operation: " ++ cause.message
  | .inSharedParameters cause => "Failed to parse path parameters: " ++ cause.message

end Mismatch

/-- A reader of typed parts. -/
abbrev Reader (α : Type) := Json → Except Mismatch α

namespace Reader

variable {α : Type}

/-- Reads a text. -/
def string : Reader String
  | .string s => .ok s
  | found => .error (.wrongType found .string)

/-- Reads a truth value. -/
def bool : Reader Bool
  | .bool b => .ok b
  | found => .error (.wrongType found .boolean)

/-- Reads nothing. -/
def nothing : Reader Unit
  | .null => .ok ()
  | found => .error (.wrongType found .nothing)

/-- Reads `null` as none. -/
def option (reader : Reader α) : Reader (Option α)
  | .null => .ok none
  | found => (reader found).map some

/-- Reads a list. -/
def list (reader : Reader α) : Reader (List α)
  | .array items => items.mapM reader
  | found => .error (.wrongType found .sequence)

/-- The members of an object. -/
def members : Reader (Entries Json)
  | .object members => .ok members
  | found => .error (.wrongType found .map)

/-- Reads the value of each member of an object. -/
def map (reader : Reader α) : Reader (Entries α) := fun found =>
  (members found).bind fun ms =>
    (ms.mapM fun m => (reader m.2).map fun value => (m.1, value)).map Entries.ofList

/-- Reads a choice by its name: a text, or an object whose only member bears the name and holds
`null`. -/
def choice (ofName : String → α) : Reader α
  | .string name => .ok (ofName name)
  | .object [(name, content)] => (nothing content).map fun _ => ofName name
  | .object _ => .error .notOneKey
  | found => .error (.wrongType found .stringOrMap)

end Reader

/-- A field of a record that is being read. -/
structure RecordField (α : Type) where
  /-- Its name in an object. -/
  name : String
  /-- Whether an array must not end before it. -/
  needed : Bool
  /-- Reads its value into the record. -/
  put : α → Reader α

namespace RecordField

variable {α β : Type}

/-- A field that an array must contain. -/
def of (name : String) (reader : Reader β) (put : α → β → α) : RecordField α where
  name := name
  needed := true
  put := fun record found => (reader found).map (put record)

/-- A field that has a value of its own where an array ends before it. -/
def withDefault (name : String) (reader : Reader β) (put : α → β → α) : RecordField α :=
  { of name reader put with needed := false }

end RecordField

/-- A description of a type of records. -/
structure Record (α : Type) where
  /-- The name of the type. -/
  name : String
  /-- The fields, in order. -/
  fields : List (RecordField α)
  /-- The record in which no field has been read. -/
  blank : α

namespace Record

variable {α : Type}

/-- Reads fields from the members of an object. -/
def readMembers (record : Record α) (members : Entries Json) : Except Mismatch α :=
  members.foldlM
    (fun r m => match record.fields.find? fun f => f.name == m.1 with
      | some field => field.put r m.2
      | none => .ok r)
    record.blank

/-- Reads fields from the items of an array; `seen` is the number of fields before them. -/
def readItems (record : Record α) : (fields : List (RecordField α)) → (items : List Json) →
    (seen : Nat) → α → Except Mismatch α
  | [], [], _, r => .ok r
  | [], items, seen, _ => .error (.tooLong (seen + items.length))
  | field :: fields, [], seen, r =>
    if field.needed then .error (.tooShort seen record.name record.fields.length)
    else readItems record fields [] (seen + 1) r
  | field :: fields, item :: items, seen, r =>
    (field.put r item).bind (readItems record fields items (seen + 1))

/-- Reads a record. -/
def read (record : Record α) : Reader α
  | .object members => record.readMembers members
  | .array items => record.readItems record.fields items 0 record.blank
  | found => .error (.wrongType found (.record record.name))

end Record

end TypedClient
