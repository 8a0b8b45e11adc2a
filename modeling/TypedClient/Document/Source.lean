import TypedClient.Fault
import TypedClient.Files
import TypedClient.Text.Quoted
import TypedClient.Text.Utf8

/-!
# Sources of API descriptions

Where the text of a description comes from: a file, or an address on the web.  What is found on the
web is not said here: `Source.load` is given a function that fetches it.
-/

namespace TypedClient

/-- Where the text of a description comes from. -/
inductive Source where
  /-- The file that a path leads to. -/
  | file (path : String)
  /-- An address on the web. -/
  | url (address : String)
deriving DecidableEq

namespace Source

/-- The beginnings of an address on the web. -/
def webSchemes : List String := ["http://", "https://"]

/-- The source that a text names: an address on the web if it begins like one, in upper or lower
case, and a file otherwise. -/
def ofText (text : String) : Source :=
  let lower := (Text.asciiLower text).toList
  if webSchemes.any fun scheme => scheme.toList.isPrefixOf lower then .url text else .file text

/-- Why there is no text from an address on the web. -/
inductive WebError where
  /-- The address gives no answer, or a refusal. -/
  | unanswered (cause : String)
  /-- The answer cannot be read. -/
  | unreadable (cause : String)
  /-- Nothing is fetched from the web. -/
  | unsupported
deriving DecidableEq

/-- The sentence that reports why there is no text from an address. -/
def WebError.message (address : String) : WebError → String
  | .unanswered cause => "Failed to fetch OpenAPI from " ++ address ++ ": " ++ cause
  | .unreadable cause => "Failed to read OpenAPI from " ++ address ++ ": " ++ cause
  | .unsupported => "Cannot fetch " ++ address ++ ": built without the `client` feature"

/-- Why a source gives no text. -/
inductive Failure where
  /-- The path leads to nothing. -/
  | notFound (path : String)
  /-- What the path leads to cannot be read. -/
  | unreadable (cause : FileError)
  /-- What the file holds is no text. -/
  | notUtf8
  /-- There is no text from an address on the web. -/
  | remote (address : String) (cause : WebError)
deriving DecidableEq

/-- The fault that reports why a source gives no text. -/
def Failure.toFault : Failure → Fault
  | .notFound path => .input ("OpenAPI file not found: " ++ Text.quoted path)
  | .unreadable cause => .input ("Failed to read OpenAPI: " ++ cause.message)
  | .notUtf8 => .input "Failed to read OpenAPI: stream did not contain valid UTF-8"
  | .remote address cause => .input (cause.message address)

/-- The text of a file, from what came of reading it. -/
def textOf (path : String) : Except FileError (List UInt8) → Except Failure String
  | .error cause => .error (if cause.isAbsence then .notFound path else .unreadable cause)
  | .ok bytes =>
    match Text.Utf8.decode bytes with
    | .ok text => .ok (String.ofList text)
    | .error _ => .error .notUtf8

/-- The text that a source gives.  `fetch` gives the text at an address on the web. -/
def load {m : Type → Type} [Monad m] (disk : Disk m) (fetch : String → m (Except WebError String)) :
    Source → m (Except Failure String)
  | .url address => do return (← fetch address).mapError (.remote address)
  | .file path => do return textOf path (← disk.read (Path.ofText path))

end Source

end TypedClient
