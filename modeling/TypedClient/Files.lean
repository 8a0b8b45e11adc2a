import TypedClient.Files.Error
import TypedClient.Files.Path

/-!
# Files

What lies where: `Files` says for every place whether it holds a file, a directory or nothing, and
from which directory relative paths start.  `walk` follows a path; `read`, `makeDirs` and `write`
do what a program does with the place that a path leads to.

A `Disk` offers these three operations in any monad, so that a command is written once for files in
memory (`Files.disk`) and for those of a machine.
-/

namespace TypedClient

/-- A place: the names that lead to it from the root. -/
abbrev Place := List String

/-- What lies at a place. -/
inductive Node where
  | directory
  | file (content : List UInt8)
deriving DecidableEq

/-- What lies where. -/
structure Files where
  /-- What lies at a place, if anything. -/
  node? : Place → Option Node
  /-- The directory that relative paths start from. -/
  workingDirectory : Place

namespace Files

/-- A root and a working directory, and nothing in them. -/
def empty (workingDirectory : Place) : Files where
  node? place := if place.isPrefixOf workingDirectory then some .directory else none
  workingDirectory

/-- Puts something at a place. -/
def put (files : Files) (place : Place) (node : Node) : Files :=
  { files with node? := fun other => if other = place then some node else files.node? other }

/-- Puts a file at a place, and directories at the places that lead there. -/
def putFile (files : Files) (place : Place) (content : List UInt8) : Files :=
  { files with
    node? := fun other =>
      if other = place then some (.file content)
      else if other.isPrefixOf place then some .directory
      else files.node? other }

/-- The number of bytes that a name can have. -/
def nameLimit : Nat := 255

/-- The place that a step leads to from a place. -/
def follow (place : Place) : Path.Step → Place
  | .stay => place
  | .up => place.dropLast
  | .into name => place ++ [name]

/-- Whether a step has a name that no directory can hold. -/
def isTooLong : Path.Step → Bool
  | .into name => nameLimit < name.utf8ByteSize
  | _ => false

/-- The place that steps lead to.  Every place on the way has to be a directory; the last one may
be anything, or nothing. -/
def walk (files : Files) (place : Place) : List Path.Step → Except FileError Place
  | [] => .ok place
  | step :: rest =>
    match files.node? place with
    | none => .error .notFound
    | some (.file _) => .error .notDirectory
    | some .directory =>
      if isTooLong step then .error .nameTooLong else files.walk (follow place step) rest

/-- The place that a path starts from. -/
def start (files : Files) (path : Path) : Place :=
  if path.absolute then [] else files.workingDirectory

/-- The place that a path leads to. -/
def locate (files : Files) (path : Path) : Except FileError Place :=
  if path.isEmpty then .error .notFound else files.walk (files.start path) path.steps

/-- The bytes of the file that a path leads to. -/
def read (files : Files) (path : Path) : Except FileError (List UInt8) :=
  (files.locate path).bind fun place =>
    match files.node? place with
    | none => .error .notFound
    | some .directory => .error .isDirectory
    | some (.file content) => if path.slash then .error .notDirectory else .ok content

/-- Whether a path leads to a directory. -/
def isDirectory (files : Files) (path : Path) : Bool :=
  match files.locate path with
  | .ok place => files.node? place == some .directory
  | .error _ => false

/-- Makes one directory. -/
def makeDir (files : Files) (path : Path) : Except FileError Files :=
  (files.locate path).bind fun place =>
    match files.node? place with
    | none => .ok (files.put place .directory)
    | some _ => .error .taken

/-- Makes the directory at the end of a path, unless it is there. -/
def ensureDir (files : Files) (path : Path) : Except FileError Files :=
  match files.makeDir path with
  | .ok files => .ok files
  | .error e => if files.isDirectory path then .ok files else .error e

/-- Makes the directories along the steps that are not there; the steps are given from the last to
the first.  What has been made stays when a later one cannot be made. -/
def makeDirsAlong (files : Files) (absolute : Bool) :
    List Path.Step → Files × Except FileError Unit
  | [] => (files, .ok ())
  | step :: before =>
    let path : Path := ⟨absolute, (step :: before).reverse, false⟩
    match files.ensureDir path with
    | .ok files => (files, .ok ())
    | .error .notFound =>
      match files.makeDirsAlong absolute before with
      | (files, .error e) => (files, .error e)
      | (files, .ok ()) =>
        match files.ensureDir path with
        | .ok files => (files, .ok ())
        | .error e => (files, .error e)
    | .error e => (files, .error e)

/-- Makes the directory at the end of a path and those on the way to it, unless they are there. -/
def makeDirs (files : Files) (path : Path) : Files × Except FileError Unit :=
  files.makeDirsAlong path.absolute path.steps.reverse

/-- Puts bytes into the file that a path leads to; a file that is not there is made. -/
def write (files : Files) (path : Path) (content : List UInt8) : Except FileError Files :=
  (files.locate path).bind fun place =>
    if path.slash then .error .isDirectory
    else
      match files.node? place with
      | some .directory => .error .isDirectory
      | _ => .ok (files.put place (.file content))

end Files

/-- The operations on files that a command needs. -/
structure Disk (m : Type → Type) where
  /-- The bytes of a file. -/
  read : Path → m (Except FileError (List UInt8))
  /-- Makes a directory and those on the way to it. -/
  makeDirs : Path → m (Except FileError Unit)
  /-- Puts bytes into a file. -/
  write : Path → List UInt8 → m (Except FileError Unit)

/-- The files in memory. -/
def Files.disk : Disk (StateM Files) where
  read path := do return (← get).read path
  makeDirs path := modifyGet fun files => ((files.makeDirs path).2, (files.makeDirs path).1)
  write path content := modifyGet fun files =>
    match files.write path content with
    | .ok files => (.ok (), files)
    | .error e => (.error e, files)

end TypedClient
