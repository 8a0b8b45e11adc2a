import TypedClient.Text.Blank
import TypedClient.Text.Case

/-!
# Names

How the names of a client are made from paths, identifiers and methods.  Words are runs of letters
and digits, of which only the ones of ASCII count; everything else separates words.  `pascal` and
`camel` join them again, `identifier` turns any text into an identifier, and `firstFree` finds a name
that is not in use.
-/

namespace TypedClient.Naming

/-- Whether a character may stand in the words of a name. -/
def isWordChar (c : Char) : Bool := c.isAlphanum

/-- Whether a character may stand in an identifier. -/
def isIdentifierChar (c : Char) : Bool := c.isAlphanum || c == '_'

/-- Gives a word a capital. -/
def capitalize : List Char → List Char
  | [] => []
  | c :: rest => c.toUpper :: rest

/-- Takes the capital of a word away. -/
def uncapitalize : List Char → List Char
  | [] => []
  | c :: rest => c.toLower :: rest

/-- The words of a text, joined, each with a capital. -/
def pascalChars (text : List Char) : List Char :=
  (Text.wordsBetween (!isWordChar ·) text).flatMap capitalize

/-- The words of a text, joined, each with a capital: `RepoId`. -/
def pascal (text : String) : String := String.ofList (pascalChars text.toList)

/-- The words of a text, joined, each but the first with a capital: `repoId`. -/
def camel (text : String) : String := String.ofList (uncapitalize (pascalChars text.toList))

/-- The identifier of a text: other characters than letters, digits and the low line become low
lines, and one is put before a digit at the beginning and in place of nothing. -/
def identifierChars (text : List Char) : List Char :=
  match text.map fun c => if isIdentifierChar c then c else '_' with
  | [] => ['_']
  | c :: rest => if c.isDigit then '_' :: c :: rest else c :: rest

/-- The identifier of a text. -/
def identifier (text : String) : String := String.ofList (identifierChars text.toList)

/-- Whether a text can stand as the key of an object without quotes. -/
def isPlainKey (text : String) : Bool :=
  match text.toList with
  | [] => false
  | c :: rest =>
    let ok := fun c => isIdentifierChar c || c == '$'
    ok c && !c.isDigit && rest.all ok

/-- The names to try for a wanted one, in order: itself, then with `2` behind it, with `3`, and so
on. -/
def numbered (wanted : String) : Nat → String
  | 0 => wanted
  | n + 1 => wanted ++ toString (n + 2)

/-- The first of the names to try that is not taken; one of the first of them, as many as are taken
and one more, is not. -/
def firstFree (taken : List String) (wanted : String) : String :=
  (((List.range (taken.length + 1)).map (numbered wanted)).find?
    fun name => !taken.contains name).getD wanted

/-- The name of the parameter that stands for a segment of a path. -/
def parameterOf? : List Char → Option (List Char)
  | '\x7b' :: rest => Text.dropTrailing? ['\x7d'] rest
  | _ => none

/-- The key of a segment of a path in the tree of routes: `by` and the name for a parameter, the
segment itself otherwise. -/
def segmentKey (segment : List Char) : List Char :=
  match parameterOf? segment with
  | some name => 'b' :: 'y' :: pascalChars name
  | none => segment

/-- The segments of a path; empty ones do not count. -/
def segments (path : String) : List (List Char) := Text.wordsBetween (· == '/') path.toList

/-- The keys of the segments of a path. -/
def routeKeys (path : String) : List String :=
  (segments path).map fun segment => String.ofList (segmentKey segment)

/-- The name of a schema that belongs to a single operation: its identifier, or its method and its
path, and a suffix. -/
def inputName (operationId : Option String) (method path suffix : String) : String :=
  let byPath :=
    (Text.lower method).toList ++ (segments path).flatMap fun s => pascalChars (segmentKey s)
  let stem := match operationId with
    | some id => if id.toList.all Text.isBlank then byPath else id.toList
    | none => byPath
  String.ofList (identifierChars (stem ++ suffix.toList))

end TypedClient.Naming
