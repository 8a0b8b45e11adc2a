import TypedClient.Text.Blank
import TypedClient.Text.Percent
import TypedClient.Text.Utf8

/-!
# Pointers to components

A pointer such as `#/components/schemas/User` names a component of the same document.  The name is
the last segment, in which `~1` stands for a slash, `~0` for a tilde and `%` with two digits for a
byte of UTF-8.  A pointer that goes deeper, or anywhere else, names no component.
-/

namespace TypedClient.Pointer

/-- Where the named schemas of a document stand. -/
def schemaRoot : String := "#/components/schemas/"

/-- Where the named parameters of a document stand. -/
def parameterRoot : String := "#/components/parameters/"

/-- Replaces a tilde followed by a given digit by a character. -/
def unescape (digit replacement : Char) : List Char → List Char
  | '~' :: d :: rest =>
    if d = digit then replacement :: unescape digit replacement rest
    else '~' :: unescape digit replacement (d :: rest)
  | c :: rest => c :: unescape digit replacement rest
  | [] => []

/-- The name that a segment spells. -/
def decodeSegment (segment : List Char) : List Char :=
  let plain := unescape '0' '~' (unescape '1' '/' segment)
  Text.Utf8.decodeLossy (Text.Percent.decode (Text.Utf8.encode plain))

/-- The name of the component under a root that a pointer leads to. -/
def nameUnder (root pointer : String) : Option String :=
  match Text.dropLeading? root.toList pointer.toList with
  | some segment =>
    if segment.isEmpty || segment.contains '/' then none
    else some (String.ofList (decodeSegment segment))
  | none => none

/-- The name of the schema that a pointer leads to. -/
def schemaName? (pointer : String) : Option String := nameUnder schemaRoot pointer

/-- The name of the parameter that a pointer leads to. -/
def parameterName? (pointer : String) : Option String := nameUnder parameterRoot pointer

end TypedClient.Pointer
