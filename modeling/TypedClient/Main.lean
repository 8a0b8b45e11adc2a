import TypedClient.Command

/-!
# The program

Runs the command on the files of the machine, and prints its report.  Nothing is fetched from the
web here and no program is started: the command reports that as it reports any web or program that
fails.
-/

namespace TypedClient.Main

/-- The error of file access that the machine reports. -/
def fileError (error : IO.Error) : FileError :=
  match error with
  | .noFileOrDirectory _ _ _ => .notFound
  | .permissionDenied _ _ _ => .denied
  | .alreadyExists _ _ _ => .taken
  | .inappropriateType _ 20 _ => .notDirectory
  | .inappropriateType _ 21 _ => .isDirectory
  | .invalidArgument _ 36 _ => .nameTooLong
  | error => .other (toString error)

/-- What came of an action on files. -/
def attempt {α : Type} (action : IO α) : IO (Except FileError α) := do
  match ← action.toBaseIO with
  | .ok a => return .ok a
  | .error error => return .error (fileError error)

/-- The machine, of which only the files are within reach. -/
def machine : Machine IO where
  read path := do
    return (← attempt (IO.FS.readBinFile path.text)).map fun bytes => bytes.toList
  makeDirs path := attempt (IO.FS.createDirAll path.text)
  write path bytes := attempt (IO.FS.writeBinFile path.text ⟨bytes.toArray⟩)
  fetch _ := return .error .unsupported
  start _ _ := return .error (.notStarted (.other "Function not implemented (os error 38)"))

/-- The variables of the environment that the command uses. -/
def environment : IO (String → Option String) := do
  let input ← IO.getEnv Command.inputVariable
  let output ← IO.getEnv Command.outputVariable
  return fun name =>
    if name = Command.inputVariable then input
    else if name = Command.outputVariable then output
    else none

end TypedClient.Main

/-- Runs the command. -/
def main (arguments : List String) : IO UInt32 := do
  let report ← TypedClient.Command.run TypedClient.Main.machine
    (← TypedClient.Main.environment) arguments
  (← IO.getStdout).putStr report.output
  (← IO.getStderr).putStr report.errors
  return UInt32.ofNat report.code
