import TypedClient.Entries
import TypedClient.Filter.Shell.Script
import TypedClient.Filter.Tools
import TypedClient.Filter.Translate

/-!
# Running shell scripts

A `Session` holds what a running script can see and change: its parameters and variables, the input
that is left, what it has written, and how its last command ended.  Scripts in parentheses are run
one level deeper; their depth bounds the recursion, since each is shorter than the script around it.
-/

namespace TypedClient.Filter.Shell

open Text.Utf8 (encode)

/-- What a running script can see and change. -/
structure Session where
  /-- The name of the script, which begins its complaints. -/
  name : List Char
  parameters : List (List Char)
  bindings : Entries (List Char) := []
  input : List UInt8
  output : List UInt8 := []
  errors : List UInt8 := []
  /-- How the last command ended. -/
  status : Nat := 0
  /-- Whether the script has ended itself. -/
  ended : Bool := false

/-- Runs a script in a session. -/
abbrev Runner := List Char → Session → Session

/-! ## Words -/

/-- A part of what a word becomes. -/
inductive Glyph where
  /-- A character. -/
  | char (c : Char)
  /-- A blank outside quotes, where the word is cut. -/
  | blank
  /-- A cut inside quotes, between two parameters. -/
  | cut
  /-- Nothing, but the word is there even if nothing else is in it. -/
  | present
deriving DecidableEq

/-- The glyphs of a text: outside quotes its blanks cut the word. -/
def glyphs (quoted : Bool) (text : List Char) : List Glyph :=
  text.map fun c =>
    if !quoted && (c == ' ' || c == '\t' || c == '\n') then .blank else .char c

/-- The words that glyphs are cut into; `word?` is the one that has been begun. -/
def fields (word? : Option (List Char)) : List Glyph → List (List Char)
  | [] => word?.toList
  | .char c :: rest => fields (some (word?.getD [] ++ [c])) rest
  | .present :: rest => fields (some (word?.getD [])) rest
  | .blank :: rest => word?.toList ++ fields none rest
  | .cut :: rest => word?.getD [] :: fields (some []) rest

/-- The value of a parameter. -/
def Session.value (s : Session) (name : List Char) : List Char :=
  match name with
  | ['#'] => (toString s.parameters.length).toList
  | ['?'] => (toString s.status).toList
  | ['$'] => ['1']
  | ['0'] => s.name
  | ['@'] | ['*'] => Text.join [' '] s.parameters
  | name =>
    match (String.ofList name).toNat? with
    | some n => (s.parameters[n - 1]?).getD []
    | none => (s.bindings.get? (String.ofList name)).getD []

/-- A text without the line ends at its end. -/
def dropLineEnds (text : List Char) : List Char := (text.reverse.dropWhile (· == '\n')).reverse

/-- The glyphs of a piece, and the session after it. -/
def expandPiece (run : Runner) (s : Session) : Piece → List Glyph × Session
  | .text chars quoted => ((if quoted then [.present] else []) ++ chars.map .char, s)
  | .parameter ['@'] true =>
    match s.parameters with
    | [] => ([], s)
    | first :: rest =>
      (.present :: glyphs true first ++ rest.flatMap fun p => .cut :: glyphs true p, s)
  | .parameter name quoted =>
    ((if quoted then [.present] else []) ++ glyphs quoted (s.value name), s)
  | .output script quoted =>
    let inner := run script { s with output := [], errors := [] }
    let text := dropLineEnds (Text.Utf8.decodeLossy inner.output)
    ((if quoted then [.present] else []) ++ glyphs quoted text,
      { s with input := inner.input, errors := s.errors ++ inner.errors, status := inner.status })

/-- The glyphs of a word, and the session after it. -/
def expandWord (run : Runner) (s : Session) : Word → List Glyph × Session
  | [] => ([], s)
  | piece :: rest =>
    let (first, s) := expandPiece run s piece
    let (more, s) := expandWord run s rest
    (first ++ more, s)

/-- The words that words become, and the session after them. -/
def expandWords (run : Runner) (s : Session) : List Word → List (List Char) × Session
  | [] => ([], s)
  | word :: rest =>
    let (gs, s) := expandWord run s word
    let (more, s) := expandWords run s rest
    (fields none gs ++ more, s)

/-- The name and the value of an assignment. -/
def assignment? : Word → Option (List Char × Word)
  | .text chars false :: rest =>
    let name := chars.takeWhile Scan.isNameChar
    match chars.drop name.length with
    | '=' :: value =>
      if name.isEmpty || (name.head?.map Char.isDigit).getD true then none
      else some (name, .text value false :: rest)
    | _ => none
  | _ => none

/-- The text that a word becomes where it is not cut. -/
def plainText (gs : List Glyph) : List Char :=
  gs.filterMap fun
    | .char c => some c
    | .blank | .cut => some ' '
    | .present => none

/-! ## Commands -/

/-- The tools that a command can name. -/
def tool? (name : String) : Option Tool :=
  match name with
  | "cat" => some cat
  | "tr" => some tr
  | "printf" => some printf
  | "echo" => some (echo unescape)
  | "true" | ":" => some (ending 0)
  | "false" => some (ending 1)
  | _ => none

/-- Where what is written to a stream goes. -/
inductive Sink where
  | output
  | errors
  | nowhere
deriving DecidableEq

/-- Where the two streams of a command go, and whether it reads the input. -/
structure Streams where
  output : Sink := .output
  errors : Sink := .errors
  readsInput : Bool := true

/-- Sends a stream to where a redirection says.  What goes to a file is lost. -/
def Streams.redirect (streams : Streams) (stream : Option Char) (sign : String)
    (target : List Char) : Streams :=
  if sign = "<" || sign = "<&" then { streams with readsInput := false }
  else
    let sink := match String.ofList target with
      | "1" => if sign = ">&" then streams.output else .nowhere
      | "2" => if sign = ">&" then streams.errors else .nowhere
      | "/dev/stdout" => streams.output
      | "/dev/stderr" => streams.errors
      | _ => .nowhere
    if stream = some '2' then { streams with errors := sink }
    else { streams with output := sink }

/-- Sends the streams to where redirections say. -/
def redirectAll (run : Runner) (s : Session) (streams : Streams) :
    List Redirection → Streams × Session
  | [] => (streams, s)
  | r :: rest =>
    let (gs, s) := expandWord run s r.target
    redirectAll run s (streams.redirect r.stream r.sign (plainText gs)) rest

/-- Writes bytes to a sink. -/
def Session.emit (s : Session) (sink : Sink) (bytes : List UInt8) : Session :=
  match sink with
  | .output => { s with output := s.output ++ bytes }
  | .errors => { s with errors := s.errors ++ bytes }
  | .nowhere => s

/-- The number that a script ends with. -/
def exitStatus (s : Session) (arguments : List (List Char)) : Nat :=
  match arguments with
  | [] => s.status
  | a :: _ => ((String.ofList a).toNat?.getD 2) % 256

/-- Runs a command of which the words have been replaced. -/
def Session.invoke (s : Session) (streams : Streams) (line : Nat) (name : List Char)
    (arguments : List (List Char)) : Session :=
  match String.ofList name with
  | "exit" => { s with status := exitStatus s arguments, ended := true }
  | "kill" => { s with status := 137, ended := true }
  | "shift" => { s with parameters := s.parameters.drop 1, status := 0 }
  | name' =>
    match tool? name' with
    | some tool =>
      let outcome := tool arguments (if streams.readsInput then s.input else [])
      let s := (s.emit streams.output outcome.output).emit streams.errors outcome.errors
      { s with
        status := outcome.status
        input := if streams.readsInput then outcome.unread else s.input }
    | none =>
      let complaint := s.name ++ ": ".toList ++ (toString line).toList ++ ": ".toList ++ name ++
        ": not found\n".toList
      { s.emit streams.errors (encode complaint) with status := 127 }

/-- Makes the assignments before a command, and returns the words behind them. -/
def assignAll (run : Runner) (s : Session) : List Word → List Word × Session
  | [] => ([], s)
  | word :: rest =>
    match assignment? word with
    | none => (word :: rest, s)
    | some (name, value) =>
      let (gs, s) := expandWord run { s with status := 0 } value
      assignAll run
        { s with bindings := s.bindings.put (String.ofList name) (plainText gs) } rest

/-- Runs a command. -/
def runCommand (run : Runner) (s : Session) (c : Command) : Session :=
  let (words, s) := assignAll run s c.words
  let (expanded, s) := expandWords run s words
  let (streams, s) := redirectAll run s {} c.redirections
  match expanded with
  | [] => if words.isEmpty then s else { s with status := 0 }
  | name :: arguments => s.invoke streams c.line name arguments

/-- Runs commands of which each reads what the one before it writes, without any effect on the
session around them. -/
def runPiped (run : Runner) (s : Session) : List Command → Session
  | [] => s
  | [c] => runCommand run s c
  | c :: rest =>
    let first := runCommand run { s with output := [] } c
    runPiped run { s with input := first.output, errors := first.errors } rest

/-- Runs a pipeline, if its condition holds. -/
def runPipeline (run : Runner) (s : Session) (p : Pipeline) : Session :=
  if s.ended then s
  else if p.condition = .success ∧ s.status ≠ 0 then s
  else if p.condition = .failure ∧ s.status = 0 then s
  else
    match p.commands with
    | [c] => runCommand run s c
    | commands =>
      let last := runPiped run s commands
      { s with
        output := last.output
        errors := last.errors
        status := last.status
        input := [] }

/-- Runs a script with scripts in parentheses up to a depth. -/
def runScript : Nat → Runner
  | 0, _, s => s
  | depth + 1, script, s =>
    match pipelines script with
    | .ok ps => ps.foldl (runPipeline (runScript depth)) s
    | .error flaw =>
      { s with
        errors := s.errors ++ encode (s.name ++ ": 1: ".toList ++ flaw.message.toList ++ ['\n'])
        status := 2
        ended := true }

/-- The outcome of a script. -/
def outcome (name : List Char) (parameters : List (List Char)) (script : List Char)
    (input : List UInt8) : Outcome :=
  let s := runScript (script.length + 1) script { name, parameters, input }
  { output := s.output, errors := s.errors, status := s.status, unread := s.input }

/-- The shell: it runs the script behind `-c`, or else the one that its input spells. -/
def sh : Tool := fun arguments input =>
  match arguments with
  | ['-', 'c'] :: script :: name :: parameters => outcome name parameters script input
  | [['-', 'c'], script] => outcome "sh".toList [] script input
  | [['-', 'c']] => .complaint ["sh: 0: -c requires an argument"] 2 input
  | [] => outcome "sh".toList [] (Text.Utf8.decodeLossy input) []
  | name :: _ =>
    .complaint ["sh: 0: cannot open " ++ String.ofList name ++ ": No such file"] 2 input

end TypedClient.Filter.Shell
