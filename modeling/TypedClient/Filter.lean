import TypedClient.Fault
import TypedClient.Files.Error
import TypedClient.Filter.Outcome
import TypedClient.Text.Blank

/-!
# Filters

A filter is a program, with its arguments, that reads a text and writes another.  What a program
does is not said here: `Filter.run` is given a function that runs programs, and it gives the text
that the filter writes, or says in which of four ways it gives none.
-/

namespace TypedClient

/-- A program and its arguments. -/
structure Filter where
  program : String
  arguments : List String
deriving DecidableEq

namespace Filter

/-- Why a program that is run leaves no outcome. -/
inductive Trouble where
  /-- It is not started. -/
  | notStarted (cause : FileError)
  /-- It is started, but its input or what it writes does not get through. -/
  | brokenOff (cause : FileError)
deriving DecidableEq

/-- Why a filter gives no text. -/
inductive Failure where
  /-- The program is not started. -/
  | notStarted (program : String) (cause : FileError)
  /-- The program is started, but its input or what it writes does not get through. -/
  | brokenOff (cause : FileError)
  /-- The program says that something went wrong. -/
  | failed (program : String) (complaint : List Char)
  /-- What the program writes is no text. -/
  | notUtf8 (flaw : Text.Utf8.Flaw)

/-- The fault that reports why a filter gives no text. -/
def Failure.toFault : Failure → Fault
  | .notStarted program cause =>
    .general ("Failed to run formatter '" ++ program ++ "': " ++ cause.message)
  | .brokenOff cause => .io cause.message
  | .failed program complaint =>
    .general ("Formatter '" ++ program ++ "' failed: " ++ String.ofList complaint)
  | .notUtf8 flaw => .general ("Formatter produced invalid UTF-8: " ++ flaw.message)

/-- Whether a text can be handed to a program: it holds no character of number zero. -/
def isPassable (text : String) : Bool := text.toList.all fun c => c.toNat != 0

/-- The text that a filter writes, from what came of running its program. -/
def textOf (filter : Filter) : Except Trouble Outcome → Except Failure String
  | .error (.notStarted cause) => .error (.notStarted filter.program cause)
  | .error (.brokenOff cause) => .error (.brokenOff cause)
  | .ok outcome =>
    if outcome.status = 0 then
      match Text.Utf8.decode outcome.output with
      | .ok result => .ok (String.ofList result)
      | .error flaw => .error (.notUtf8 flaw)
    else
      .error (.failed filter.program (Text.trim (Text.Utf8.decodeLossy outcome.errors)))

variable {m : Type → Type} [Monad m]

/-- The text that a filter makes of a text.  `start` runs a program on an input to its end. -/
def run (start : Filter → List UInt8 → m (Except Trouble Outcome)) (filter : Filter)
    (text : String) : m (Except Failure String) :=
  if (filter.program :: filter.arguments).all isPassable then do
    return filter.textOf (← start filter (Text.Utf8.encode text.toList))
  else
    pure (.error (.notStarted filter.program (.other "nul byte found in provided data")))

/-- The text that a filter makes of a text, or the fault that reports why it makes none. -/
def rewrite (start : Filter → List UInt8 → m (Except Trouble Outcome)) (filter : Filter)
    (text : String) : m (Except Fault String) := do
  return (← filter.run start text).mapError Failure.toFault

end Filter

end TypedClient
