import TypedClient.Text.Blank

/-!
# Tidy texts

`tidy` cuts the blanks off the end of every line, writes one empty line for several, none at the
beginning and the end, and ends the last line.
-/

namespace TypedClient.Layout

/-- Leaves out the empty lines that have no line before them, another empty one before them, or no
line behind them.  `skip` says whether an empty line is left out at the beginning. -/
def collapse (skip : Bool) : List (List Char) → List (List Char)
  | [] => []
  | line :: rest =>
    if line.isEmpty then
      if skip || rest.all List.isEmpty then collapse skip rest else [] :: collapse true rest
    else line :: collapse false rest

/-- The lines of a text, without the blanks at their ends. -/
def trimmedLines (text : List Char) : List (List Char) :=
  (Text.splitAtEach (· == '\n') text).map Text.trimEnd

/-- The tidy form of a text. -/
def tidy (text : String) : String :=
  String.ofList ((collapse true (trimmedLines text.toList)).flatMap fun line => line ++ ['\n'])

end TypedClient.Layout
