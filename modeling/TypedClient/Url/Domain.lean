import TypedClient.Url.Domain.Label
import TypedClient.Url.Domain.Punycode

/-!
# Domain names

The normal form of a domain name, which may hold letters of any writing: capitals become small,
characters of the same meaning become one, and labels that begin with `xn--` are written out.
-/

namespace TypedClient.Url.Domain

/-- Whether a character must not stand in a domain name although it is of ASCII. -/
def isForbidden (c : Char) : Bool :=
  c.toNat ≤ 0x20 || c.toNat == 0x7F || "%#/:<>?@[\\]^|".toList.contains c

/-- Whether a character is of ASCII. -/
def isAscii (c : Char) : Bool := c.toNat < 0x80

/-- What replaces a character; none if it is not allowed. -/
def mapChar? (c : Char) : Option (List Char) :=
  if isAscii c then some [c.toLower]
  else if Text.inTable disallowed c then none
  else
    match Text.entryOf? mappings c with
    | none => some [c]
    | some ⟨first, _, _, [target]⟩ => some [Char.ofNat (target + (c.toNat - first))]
    | some entry => some (entry.values.map Char.ofNat)

/-- What remains of a label that begins with `xn--`. -/
def encodedPart? : List Char → Option (List Char)
  | 'x' :: 'n' :: '-' :: '-' :: rest => some rest
  | _ => none

/-- Whether a label could have been written as it stands: nothing in it would be replaced. -/
def isNormal (label : List Char) : Bool :=
  label.all (fun c => mapChar? c == some [c]) && Text.compose label == label

/-- A label with its letters written out.  What is spelled must be beyond ASCII, and normal. -/
def writeOut? (label : List Char) : Option (List Char) :=
  match encodedPart? label with
  | none => some label
  | some rest =>
    match Punycode.decode? rest with
    | none => none
    | some text =>
      if text.all isAscii || !isNormal text || (encodedPart? text).isSome then none else some text

/-- The labels of a name. -/
def labels (name : List Char) : List (List Char) := Text.splitAtEach (· == '.') name

/-- Whether a name consists of ASCII and spells no other letters. -/
def isSimple (name : List Char) : Bool :=
  name.all isAscii && (labels (name.map Char.toLower)).all fun l => (encodedPart? l).isNone

/-- The normal form of a name that may hold letters of any writing. -/
def writtenOut? (name : List Char) : Option (List (List Char)) :=
  (name.mapM mapChar?).bind fun images =>
    ((labels (Text.compose images.flatten)).mapM writeOut?).bind fun ls =>
      if ls.all isLabel && directionsFit ls then some ls else none

/-- The normal form of a name; none if it is no domain name. -/
def normalize? (name : List Char) : Option (List Char) :=
  let normal := if isSimple name then some (name.map Char.toLower)
    else (writtenOut? name).map (Text.join ['.'])
  normal.filter fun n => !n.any isForbidden

end TypedClient.Url.Domain
