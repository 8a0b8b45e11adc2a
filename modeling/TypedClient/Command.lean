import TypedClient.Command.Help
import TypedClient.Command.Job

/-!
# The command

`Command.run` is the whole program: it reads its arguments, does the job that they ask for, and
reports how that went.
-/

namespace TypedClient.Command

/-- What the command reports. -/
structure Report where
  /-- The number that it ends with. -/
  code : Nat
  /-- What it prints. -/
  output : String := ""
  /-- What it prints about its troubles. -/
  errors : String := ""
deriving DecidableEq

/-- The report of misuse. -/
def misuseReport (misuse : Misuse) : Report where
  code := 2
  errors := "error: " ++ Text.joinStrings "\n" (misuse.lines ++ ["", usageLine, "", helpHint]) ++ "\n"

/-- The report that no input is given. -/
def missingInputReport (environment : String → Option String) : Report where
  code := 1
  errors := "error: the following required argument was not provided: " ++
    Setting.input.display ++ "\n\n" ++ helpText environment ++ "\n"

/-- The report on a job that has been done, or has failed. -/
def jobReport (job : Job) : Except Fault Unit → Report
  | .ok () => { code := 0, output := "Generated client at " ++ Text.quoted job.output ++ "\n" }
  | .error fault => { code := 1, errors := "Error: " ++ fault.message ++ "\n" }

/-- The job that options ask for, if they name an input. -/
def Options.job? (options : Options) : Option Job :=
  options.input.map fun input => ⟨input, options.output, options.strict, options.filter⟩

/-- Runs the command on a machine. -/
def run {m : Type → Type} [Monad m] (machine : Machine m) (environment : String → Option String)
    (arguments : List String) : m Report :=
  match Options.read environment arguments with
  | .error .help => pure { code := 0, output := helpText environment }
  | .error .version => pure { code := 0, output := versionText }
  | .error (.misuse misuse) => pure (misuseReport misuse)
  | .ok options =>
    match options.job? with
    | none => pure (missingInputReport environment)
    | some job => do
      let result ← job.execute machine.toDisk machine.fetch (Filter.rewrite machine.start)
      return jobReport job result

end TypedClient.Command
