import TypedClient.Filter
import TypedClient.Filter.Shell

/-!
# Stand-ins for programs

A machine has programs of its own, and what they do is up to the machine.  Where a command runs on
files in memory, a few programs stand in for them: the shell, and the tools that pass on, write and
replace text.  They are functions on bytes, and neither read nor write files.
-/

namespace TypedClient.Filter.StandIn

/-- The directories in which programs lie. -/
def programDirectories : List String := ["/bin/", "/usr/bin/"]

/-- The directories that everything else lies in. -/
def systemDirectories : List String :=
  ["/", ".", "..", "./", "../", "/bin", "/usr", "/usr/bin", "/etc", "/tmp", "/dev", "/home", "/var"]

/-- The program with a name. -/
def tool? (name : String) : Option Tool :=
  match name with
  | "sh" => some Shell.sh
  | "echo" => some (echo Text.Utf8.encode)
  | ":" => none
  | name => Shell.tool? name

/-- The program that a name or a path leads to. -/
def locate (program : String) : Except FileError Tool :=
  let names := programDirectories.filterMap fun directory =>
    Text.dropLeading? directory.toList program.toList
  match (tool? program).or (names.findSome? fun name => tool? (String.ofList name)) with
  | some tool => .ok tool
  | none => if systemDirectories.contains program then .error .denied else .error .notFound

/-- Runs a program that stands in for one of a machine. -/
def start (filter : Filter) (input : List UInt8) : Except Trouble Outcome :=
  match locate filter.program with
  | .error cause => .error (.notStarted cause)
  | .ok tool => .ok (tool (filter.arguments.map String.toList) input)

end TypedClient.Filter.StandIn
