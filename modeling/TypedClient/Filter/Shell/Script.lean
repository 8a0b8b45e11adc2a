import TypedClient.Filter.Shell.Token

/-!
# Shell scripts

A script is a sequence of pipelines, each with the condition on which it is run; a pipeline is a
sequence of commands, each of which reads what the one before it writes.
-/

namespace TypedClient.Filter.Shell

/-- Where a command sends a stream. -/
structure Redirection where
  /-- The digit of the stream, if one is given. -/
  stream : Option Char
  /-- The sign. -/
  sign : String
  /-- The file, or the digit of another stream. -/
  target : Word

/-- A command. -/
structure Command where
  /-- The number of the line that it starts on. -/
  line : Nat := 1
  words : List Word := []
  redirections : List Redirection := []

/-- Whether nothing of a command has been read. -/
def Command.isEmpty (c : Command) : Bool := c.words.isEmpty && c.redirections.isEmpty

/-- When a pipeline is run. -/
inductive Condition where
  | always
  /-- If what was run last went well. -/
  | success
  /-- If what was run last did not go well. -/
  | failure
deriving DecidableEq

/-- Commands of which each reads what the one before it writes, and when they are run. -/
structure Pipeline where
  condition : Condition
  commands : List Command

/-- What is wrong with a script. -/
inductive ScriptFlaw where
  | unterminated
  | unexpected (sign : String)
  | unexpectedEnd
deriving DecidableEq

/-- The sentence that reports what is wrong with a script. -/
def ScriptFlaw.message : ScriptFlaw → String
  | .unterminated => "Syntax error: Unterminated quoted string"
  | .unexpected "\n" => "Syntax error: newline unexpected"
  | .unexpected sign => "Syntax error: \"" ++ sign ++ "\" unexpected"
  | .unexpectedEnd => "Syntax error: end of file unexpected"

/-- What has been read of a script.  Lists that grow are kept from the last item to the first. -/
structure Reading where
  done : List Pipeline := []
  condition : Condition := .always
  /-- The commands of the pipeline that has been begun. -/
  before : List Command := []
  command : Command := {}
  /-- The redirection whose target comes next. -/
  redirection? : Option (Option Char × String) := none

namespace Reading

/-- Whether a command has to follow. -/
def awaitsCommand (r : Reading) : Bool := r.condition != .always || !r.before.isEmpty

/-- Adds a word. -/
def addWord (r : Reading) (line : Nat) (word : Word) : Reading :=
  let command := if r.command.isEmpty then { r.command with line } else r.command
  match r.redirection? with
  | some (stream, sign) =>
    { r with
      redirection? := none
      command := { command with
        redirections := command.redirections ++ [⟨stream, sign, word⟩] } }
  | none => { r with command := { command with words := command.words ++ [word] } }

/-- Ends the pipeline; the next one is run on a condition. -/
def endPipeline (r : Reading) (condition : Condition) : Reading where
  done := ⟨r.condition, (r.command :: r.before).reverse⟩ :: r.done
  condition

/-- Adds a sign. -/
def addSign (r : Reading) (stream : Option Char) (sign : String) : Except ScriptFlaw Reading :=
  let separate (f : Reading) : Except ScriptFlaw Reading :=
    if r.redirection?.isSome || r.command.isEmpty then .error (.unexpected sign) else .ok f
  match sign with
  | "\n" =>
    if r.redirection?.isSome then .error (.unexpected sign)
    else if r.command.isEmpty then .ok r
    else .ok (r.endPipeline .always)
  | ";" | "&" => separate (r.endPipeline .always)
  | "&&" => separate (r.endPipeline .success)
  | "||" => separate (r.endPipeline .failure)
  | "|" => separate { r with before := r.command :: r.before, command := {} }
  | ">" | ">>" | ">|" | ">&" | "<" | "<&" =>
    if r.redirection?.isSome then .error (.unexpected sign)
    else .ok { r with redirection? := some (stream, sign) }
  | sign => .error (.unexpected sign)

/-- Adds a token. -/
def add (r : Reading) : Token → Except ScriptFlaw Reading
  | .word line pieces => .ok (r.addWord line pieces)
  | .sign stream text => r.addSign stream text

/-- What is read when the script ends. -/
def finish (r : Reading) : Except ScriptFlaw (List Pipeline) :=
  if r.redirection?.isSome then .error (.unexpected "\n")
  else if r.command.isEmpty then
    if r.awaitsCommand then .error .unexpectedEnd else .ok r.done.reverse
  else .ok (r.endPipeline .always).done.reverse

end Reading

/-- The pipelines of a script. -/
def pipelines (script : List Char) : Except ScriptFlaw (List Pipeline) :=
  match tokens? script with
  | none => .error .unterminated
  | some tokens => (tokens.foldlM Reading.add {}).bind Reading.finish

end TypedClient.Filter.Shell
