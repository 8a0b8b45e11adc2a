import TypedClient.Text.Percent
import TypedClient.Text.Utf8
import TypedClient.Yaml.Cursor
import TypedClient.Yaml.Token

/-!
# Properties and directives

What may stand before a node, an anchor or a tag, what may stand for one, an alias, and the
directives before a document.
-/

namespace TypedClient.Yaml

/-! ## Anchors and aliases -/

/-- Whether a text may follow the name of an anchor. -/
def endsAnchor (text : List Char) : Bool :=
  startsBlank text || text.head?.any fun c => "?:,]\x7d%@\x60".toList.contains c

/-- The name behind `&` or `*` at the cursor. -/
def anchorName? (c : Cursor) : Option (String × Cursor) :=
  let (name, c) := (c.skip 1).span isWordChar
  if name.isEmpty || !endsAnchor c.rest then none else some (String.ofList name, c)

/-! ## Tags -/

/-- Whether a character may stand in a tag; a `verbatim` one, in angle brackets or in a directive,
may also hold the indicators of flow sequences. -/
def isTagChar (verbatim : Bool) (c : Char) : Bool :=
  isWordChar c || ";/?:@&=+$.%!~*'()".toList.contains c || (verbatim && ",[]".toList.contains c)

/-- Whether two hexadecimal digits follow every `%`. -/
def escapesComplete : List Char → Bool
  | [] => true
  | '%' :: high :: low :: rest =>
    (Text.Percent.hexValue? (UInt8.ofNat high.toNat)).isSome &&
      (Text.Percent.hexValue? (UInt8.ofNat low.toNat)).isSome && escapesComplete rest
  | c :: rest => c != '%' && escapesComplete rest

/-- The text that a run of tag characters spells. -/
def tagText? (run : List Char) : Option (List Char) :=
  if escapesComplete run then
    (Text.Utf8.decode (Text.Percent.decode (Text.Utf8.encode run))).toOption
  else none

/-- The text of a tag from the cursor on. -/
def tagUri? (verbatim : Bool) (c : Cursor) : Option (String × Cursor) :=
  let (run, c) := c.span (isTagChar verbatim)
  (tagText? run).map fun text => (String.ofList text, c)

/-- The handle of a tag at the cursor: `!`, or `!`, a name that may be empty, and `!`. -/
def tagHandle (c : Cursor) : List Char × Cursor :=
  let (name, c) := (c.skip 1).span isWordChar
  if c.rest.head? = some '!' then ('!' :: name ++ ['!'], c.skip 1) else ('!' :: name, c)

/-- Whether a handle is closed by a second exclamation mark. -/
def isClosedHandle (handle : List Char) : Bool :=
  handle.length != 1 && handle.getLast? == some '!'

/-- A tag in angle brackets. -/
def verbatimTag? (c : Cursor) : Option (Token × Cursor) :=
  (tagUri? true (c.skip 2)).bind fun (uri, c) =>
    if uri.isEmpty || c.rest.head? != some '>' then none else some (.tag "" uri, c.skip 1)

/-- A tag with a handle, or with the handle `!` and the rest behind it; an exclamation mark alone is
a tag without a handle. -/
def shorthandTag? (c : Cursor) : Option (Token × Cursor) :=
  let (handle, c) := tagHandle c
  (tagUri? false c).bind fun (uri, c) =>
    if isClosedHandle handle then
      if uri.isEmpty then none else some (.tag (String.ofList handle) uri, c)
    else
      let suffix := String.ofList (handle.drop 1) ++ uri
      some (if suffix.isEmpty then .tag "" "!" else .tag "!" suffix, c)

/-- The tag at the cursor. -/
def tagToken? (flow : Bool) (c : Cursor) : Option (Token × Cursor) :=
  let tag := match c.rest with
    | _ :: '<' :: _ => verbatimTag? c
    | _ => shorthandTag? c
  tag.bind fun (token, c) =>
    if startsBlank c.rest || (flow && c.rest.head? == some ',') then some (token, c) else none

/-! ## Directives -/

/-- A number of at most nine digits at the cursor. -/
def versionNumber? (c : Cursor) : Option (Nat × Cursor) :=
  let (run, c) := c.span Char.isDigit
  if run.isEmpty || 9 < run.length then none
  else some (run.foldl (fun n d => n * 10 + (d.toNat - 48)) 0, c)

/-- The version in a `%YAML` directive. -/
def versionDirective? (c : Cursor) : Option (Token × Cursor) :=
  (versionNumber? (c.span isBlank).2).bind fun (major, c) =>
    if c.rest.head? = some '.' then
      (versionNumber? (c.skip 1)).map fun (minor, c) => (.versionDirective major minor, c)
    else none

/-- The handle and its expansion in a `%TAG` directive. -/
def tagDirective? (c : Cursor) : Option (Token × Cursor) :=
  let c := (c.span isBlank).2
  let (handle, c) := tagHandle c
  if c.rest.head?.any isBlank && (handle.length == 1 || isClosedHandle handle) then
    (tagUri? true (c.span isBlank).2).bind fun (uri, c) =>
      if uri.isEmpty || !startsBlank c.rest then none
      else some (.tagDirective (String.ofList handle) uri, c)
  else none

/-- The directive on the line of the cursor; the place behind it is on the next line. -/
def directive? (c : Cursor) : Option (Token × Cursor) :=
  let (name, c) := (c.skip 1).span isWordChar
  let directive :=
    if !startsBlank c.rest then none
    else if name = "YAML".toList then versionDirective? c
    else if name = "TAG".toList then
      if (c.span isBlank).2.rest.head? = some '!' then tagDirective? c else none
    else none
  directive.bind fun (token, c) => c.endOfLine?.map fun c => (token, c)

end TypedClient.Yaml
