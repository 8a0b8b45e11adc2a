import TypedClient.Document.Source
import TypedClient.Filter

/-!
# Machines

What a command needs of the machine that it runs on: files, the web, and programs.

A `Machine` offers them in any monad.  `Surroundings` are a web and programs that answer as
functions do, and leave files as they are; `Surroundings.machine` puts them around files in memory.
-/

namespace TypedClient

/-- What a command needs of the machine that it runs on. -/
structure Machine (m : Type → Type) extends Disk m where
  /-- The text at an address on the web. -/
  fetch : String → m (Except Source.WebError String)
  /-- Runs a program on an input to its end. -/
  start : Filter → List UInt8 → m (Except Filter.Trouble Filter.Outcome)

/-- A web and programs, none of which changes files. -/
structure Surroundings where
  /-- The text at an address on the web. -/
  fetch : String → Except Source.WebError String
  /-- What comes of running a program on an input. -/
  start : Filter → List UInt8 → Except Filter.Trouble Filter.Outcome

namespace Surroundings

/-- The machine of files in memory with what surrounds them. -/
def machine (surroundings : Surroundings) : Machine (StateM Files) where
  toDisk := Files.disk
  fetch address := pure (surroundings.fetch address)
  start filter input := pure (surroundings.start filter input)

/-- The text that a filter makes of a text. -/
def rewrite (surroundings : Surroundings) (filter : Filter) (text : String) : Except Fault String :=
  Id.run (filter.rewrite (fun filter input => pure (surroundings.start filter input)) text)

end Surroundings

end TypedClient
