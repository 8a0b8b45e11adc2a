/-!
# YAML tokens

The tokens that a YAML text is cut into.  Indentation appears as tokens of its own: a block
collection begins with one token and ends with `blockEnd`, and `key` stands before each key of a
mapping, whether the text marks it or not.
-/

namespace TypedClient.Yaml

/-- A token of a YAML text. -/
inductive Token where
  /-- The version that a `%YAML` directive asks for. -/
  | versionDirective (major minor : Nat)
  /-- What a `%TAG` directive lets a tag handle stand for. -/
  | tagDirective (handle expansion : String)
  | documentStart
  | documentEnd
  | blockSequenceStart
  | blockMappingStart
  | blockEnd
  | flowSequenceStart
  | flowSequenceEnd
  | flowMappingStart
  | flowMappingEnd
  | blockEntry
  | flowEntry
  | key
  | value
  /-- A reference to an anchor. -/
  | alias (name : String)
  /-- A name for the node that follows. -/
  | anchor (name : String)
  /-- A tag for the node that follows, as a handle and what stands behind it. -/
  | tag (handle suffix : String)
  /-- A text; `plain` if it stands without quotes. -/
  | scalar (text : String) (plain : Bool)
deriving DecidableEq

end TypedClient.Yaml
