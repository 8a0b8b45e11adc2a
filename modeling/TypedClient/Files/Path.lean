import TypedClient.Text.Blank

/-!
# Paths

A path is read as the steps that it takes through the directories: into a directory or a file by
its name, up to the directory around, or nowhere.  `parent?` leads to the directory that holds what
the path leads to.
-/

namespace TypedClient

/-- A step through the directories. -/
inductive Path.Step where
  /-- Stays in the directory. -/
  | stay
  /-- Goes to the directory around. -/
  | up
  /-- Goes to what has a name in the directory. -/
  | into (name : String)
deriving DecidableEq

/-- A way through the directories. -/
structure Path where
  /-- Whether it starts at the root; otherwise it starts at the working directory. -/
  absolute : Bool
  /-- The steps. -/
  steps : List Path.Step
  /-- Whether it ends with a slash, so that it leads to a directory if to anything. -/
  slash : Bool
deriving DecidableEq

namespace Path

/-- The step that a word between slashes spells. -/
def Step.ofText (word : List Char) : Step :=
  if word = ['.'] then .stay else if word = ['.', '.'] then .up else .into (String.ofList word)

/-- The word that spells a step. -/
def Step.text : Step → List Char
  | .stay => ['.']
  | .up => ['.', '.']
  | .into name => name.toList

/-- The path that a text spells. -/
def ofText (text : String) : Path where
  absolute := text.toList.head? == some '/'
  steps := (Text.wordsBetween (· == '/') text.toList).map Step.ofText
  slash := text.toList.getLast? == some '/'

/-- A text that spells a path. -/
def text (path : Path) : String :=
  let words := Text.join ['/'] (path.steps.map Step.text)
  String.ofList ((if path.absolute then ['/'] else []) ++ words ++
    (if path.slash && !path.steps.isEmpty then ['/'] else []))

/-- Whether a path has no step and no start: it leads nowhere, not even to the working directory. -/
def isEmpty (path : Path) : Bool := path.steps.isEmpty && !path.absolute

/-- The steps that count when a path is cut off at its end: all but the idle ones, of which only
the one at the start of a relative path stands for a directory of its own. -/
def countedSteps (path : Path) : List Step :=
  match path.steps with
  | .stay :: rest =>
    let counted := rest.filter (· != .stay)
    if path.absolute then counted else .stay :: counted
  | steps => steps.filter (· != .stay)

/-- The path without its last step, if something is left of it. -/
def parent? (path : Path) : Option Path :=
  let shorter : Path := ⟨path.absolute, path.countedSteps.dropLast, false⟩
  if path.countedSteps.isEmpty || shorter.isEmpty then none else some shorter

end Path

end TypedClient
