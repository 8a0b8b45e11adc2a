import TypedClient.Document.Read
import TypedClient.Layout.Tidy
import TypedClient.Machine
import TypedClient.TypeScript.Module

/-!
# Generating a client

A `Job` says from which description a client is generated, how, and where it is written.  The steps
up to the code of the client change nothing on the disk, so that a job that fails there leaves
everything as it was.
-/

namespace TypedClient

/-- The code of the client for the text of a description. -/
def clientCode (strict : Bool) (text : String) : Except Fault String :=
  match Document.read text with
  | .error e => .error e.toFault
  | .ok document =>
    match Blueprint.ofDocument strict document with
    | .error e => .error e.toFault
    | .ok blueprint => .ok (Layout.tidy (TypeScript.render blueprint))

/-- What is asked for when a client is generated. -/
structure Job where
  /-- Where the description comes from. -/
  input : String
  /-- The path to the file of the client. -/
  output : String
  /-- Whether a schema that is not expressed in full is refused. -/
  strict : Bool
  /-- What the code goes through at the end. -/
  filter : Option Filter
deriving DecidableEq

namespace Job

variable {m : Type → Type} [Monad m]

/-- The code of the client before it goes through a filter, from what came of loading the
description. -/
def code (job : Job) : Except Source.Failure String → Except Fault String
  | .error e => .error e.toFault
  | .ok text => clientCode job.strict text

/-- The code that goes into the file of the client.  `run` gives the text that a filter makes of a
text. -/
def filtered (run : Filter → String → m (Except Fault String)) (job : Job) (code : String) :
    m (Except Fault String) :=
  match job.filter with
  | none => pure (.ok code)
  | some filter => run filter code

/-- Makes the directories that the file of the client lies in. -/
def makeRoom (disk : Disk m) (job : Job) : m (Except FileError Unit) :=
  match (Path.ofText job.output).parent? with
  | none => pure (.ok ())
  | some parent => disk.makeDirs parent

/-- Writes the code to the file of the client. -/
def store (disk : Disk m) (job : Job) (code : String) : m (Except Fault Unit) := do
  match ← makeRoom disk job with
  | .error e => return .error (.general ("Failed to create output dir: " ++ e.message))
  | .ok () =>
    match ← disk.write (Path.ofText job.output) (Text.Utf8.encode code.toList) with
    | .error e => return .error (.general ("Failed to write client file: " ++ e.message))
    | .ok () => return .ok ()

/-- Does a job.  `fetch` gives the text at an address on the web, and `run` the text that a filter
makes of a text. -/
def execute (disk : Disk m) (fetch : String → m (Except Source.WebError String))
    (run : Filter → String → m (Except Fault String)) (job : Job) : m (Except Fault Unit) := do
  match job.code (← (Source.ofText job.input).load disk fetch) with
  | .error e => return .error e
  | .ok code =>
    match ← job.filtered run code with
    | .error e => return .error e
    | .ok code => job.store disk code

end Job

end TypedClient
