import TypedClient.Text.Blank

/-!
# Laying out code

Code is written by steps: a line, an empty line, and the changes of the indentation between them.  A
`Page` holds what the steps have written so far.  `block` puts lines one level deeper than those
around them, so that code made of blocks ends at the level at which it began.
-/

namespace TypedClient.Layout

/-- A step of writing code. -/
inductive Step where
  /-- Writes a line; a text with line ends is several lines. -/
  | line (text : String)
  /-- Writes an empty line. -/
  | blank
  /-- Goes one level deeper. -/
  | indent
  /-- Goes one level back. -/
  | dedent
deriving DecidableEq

/-- What has been written. -/
structure Page where
  /-- The indentation of one level. -/
  unit : String := "  "
  /-- The level of the lines to come. -/
  level : Nat := 0
  /-- The text. -/
  text : String := ""

namespace Page

/-- A line of the text at a level, with its end.  An empty one is not indented. -/
def lineText (unit : String) (level : Nat) (text : List Char) : List Char :=
  (if text.isEmpty then [] else (List.replicate level unit.toList).flatten ++ text) ++ ['\n']

/-- Does one step. -/
def write (page : Page) : Step → Page
  | .line text =>
    let lines := Text.splitAtEach (· == '\n') text.toList
    { page with
      text := page.text ++ String.ofList (lines.flatMap (lineText page.unit page.level)) }
  | .blank => { page with text := page.text ++ "\n" }
  | .indent => { page with level := page.level + 1 }
  | .dedent => { page with level := page.level - 1 }

/-- Does steps one after the other. -/
def writeAll (page : Page) (steps : List Step) : Page := steps.foldl write page

end Page

/-- A line and what follows it one level deeper. -/
def opening (text : String) : List Step := [.line text, .indent]

/-- The line that closes what was opened. -/
def closing (text : String) : List Step := [.dedent, .line text]

/-- Steps one level deeper, between a first and a last line. -/
def block (first : String) (inner : List Step) (last : String) : List Step :=
  opening first ++ inner ++ closing last

/-- The text of steps, from an empty page on. -/
def render (steps : List Step) : String := (Page.writeAll {} steps).text

end TypedClient.Layout
