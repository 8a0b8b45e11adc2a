import TypedClient.Document.OfJson
import TypedClient.Fault
import TypedClient.Yaml.Value.ToJson

/-!
# Reading API descriptions

A description is a YAML text, or a JSON text, which is read as YAML too.  `Document.Unreadable` says
in which of three ways a text can fail to be one.
-/

namespace TypedClient.Document

/-- Why a text is no API description. -/
inductive Unreadable where
  /-- It is no YAML text of one document. -/
  | notYaml
  /-- Its value is no mapping. -/
  | notMapping
  /-- Some part of it does not fit. -/
  | mismatch (cause : Mismatch)

/-- The fault that reports why a text is no API description. -/
def Unreadable.toFault : Unreadable → Fault
  | .notYaml => .input "Failed to parse OpenAPI YAML"
  | .notMapping => .input "Invalid OpenAPI document: root must be a mapping"
  | .mismatch cause => .input ("Failed to read OpenAPI document: " ++ cause.message)

/-- The description of a JSON value. -/
def ofJson : Json → Except Unreadable Document
  | .object members => (record.read (.object members)).mapError .mismatch
  | _ => .error .notMapping

/-- The description that a text spells. -/
def read (text : String) : Except Unreadable Document :=
  match Yaml.readJson? text with
  | some value => ofJson value
  | none => .error .notYaml

end TypedClient.Document
