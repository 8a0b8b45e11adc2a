import TypedClient.Yaml.Cursor

/-!
# Block scalars

A block scalar is the indented text behind `|` or `>`.  Its indentation is that of its first line
that is not empty, unless the header gives it.  Behind `|` every line break counts; behind `>` a
single break between two lines that do not start with a blank is a space.  The header also says what
becomes of the breaks at the end: all but one are dropped, or all (`-`), or none (`+`).
-/

namespace TypedClient.Yaml

/-- What becomes of the breaks at the end of a block scalar. -/
inductive Chomping where
  | strip
  | clip
  | keep
deriving DecidableEq

/-- The header of a block scalar. -/
structure BlockHeader where
  /-- Whether every break counts. -/
  literal : Bool
  /-- What becomes of the breaks at the end. -/
  chomping : Chomping
  /-- The columns by which the text is indented more than its surroundings, if given. -/
  increment : Option Nat

/-- The chomping that a character asks for. -/
def chomping? : Option Char → Option Chomping
  | some '+' => some .keep
  | some '-' => some .strip
  | _ => none

/-- The indentation that a digit asks for. -/
def increment? : Option Char → Option Nat
  | some c => if '0' ≤ c ∧ c ≤ '9' then some (c.toNat - 48) else none
  | none => none

/-- Reads the header of the block scalar at the cursor, up to the end of its line. -/
def blockHeader? (literal : Bool) (c : Cursor) : Option (BlockHeader × Cursor) :=
  let c := c.skip 1
  let (chomping, increment, c) :=
    match chomping? c.rest.head? with
    | some ch =>
      let c := c.skip 1
      match increment? c.rest.head? with
      | some n => (ch, some n, c.skip 1)
      | none => (ch, none, c)
    | none =>
      match increment? c.rest.head? with
      | some n =>
        let c := c.skip 1
        match chomping? c.rest.head? with
        | some ch => (ch, some n, c.skip 1)
        | none => (.clip, some n, c)
      | none => (.clip, none, c)
  if increment = some 0 then none
  else c.endOfLine?.map fun c => (⟨literal, chomping, increment⟩, c)

/-- A block scalar that is being read. -/
structure BlockState where
  /-- The indentation of its text; none until it is known. -/
  indent : Option Nat
  /-- The greatest column reached before the indentation is known. -/
  widest : Nat := 0
  /-- The text so far, the last character first. -/
  taken : List Char := []
  /-- The break at the end of the last line. -/
  lastBreak : List Char := []
  /-- The breaks of the empty lines behind it, the last one first. -/
  emptyLines : List Char := []
  /-- Whether the last line started with a blank. -/
  startedBlank : Bool := false
  /-- Whether the reader is in a line, behind its indentation. -/
  inLine : Bool := false

namespace BlockState

/-- The indentation of the text, once its first line is reached; `outer` is the indentation of the
surroundings. -/
def settledIndent (outer : Int) (s : BlockState) : Nat :=
  match s.indent with
  | some n => n
  | none => max s.widest (max (outer + 1).toNat 1)

/-- Joins a line that starts with a given character to the text before it. -/
def startLine (literal : Bool) (c : Char) (s : BlockState) : BlockState :=
  let folds := !literal && s.lastBreak == ['\n'] && !s.startedBlank && !isBlank c
  let joint := if folds then if s.emptyLines.isEmpty then [' '] else [] else s.lastBreak
  { s with
    taken := c :: s.emptyLines ++ joint ++ s.taken
    lastBreak := []
    emptyLines := []
    startedBlank := isBlank c
    inLine := true }

/-- The text of the scalar, with the breaks at its end as the chomping wants them. -/
def finish (chomping : Chomping) (s : BlockState) : List Char :=
  let tail := match chomping with
    | .strip => []
    | .clip => s.lastBreak
    | .keep => s.emptyLines ++ s.lastBreak
  (tail ++ s.taken).reverse

end BlockState

/-- Reads the lines of a block scalar. -/
def readBlock (header : BlockHeader) (outer : Int) : BlockState → (rest : List Char) →
    (index line column : Nat) → Option (List Char × Cursor)
  | s, [], index, line, column => some (s.finish header.chomping, ⟨[], index, line, column⟩)
  | s, c :: rest, index, line, column =>
    if s.inLine then
      if isBreak c then
        readBlock header outer { s with lastBreak := [c], inLine := false } rest (index + 1)
          (line + 1) 0
      else
        readBlock header outer { s with taken := c :: s.taken } rest (index + 1) line (column + 1)
    else
      let indenting := s.indent.all fun n => column < n
      if c == ' ' && indenting then readBlock header outer s rest (index + 1) line (column + 1)
      else if c == '\t' && indenting then none
      else
        let s := { s with widest := max s.widest column }
        if isBreak c then
          readBlock header outer { s with emptyLines := c :: s.emptyLines } rest (index + 1)
            (line + 1) 0
        else
          let indent := s.settledIndent outer
          if column = indent then
            readBlock header outer ({ s with indent := some indent }.startLine header.literal c) rest
              (index + 1) line (column + 1)
          else some (s.finish header.chomping, ⟨c :: rest, index, line, column⟩)

/-- Reads the block scalar at the cursor; `outer` is the indentation of the surroundings. -/
def blockScalar? (literal : Bool) (outer : Int) (c : Cursor) : Option (List Char × Cursor) :=
  (blockHeader? literal c).bind fun (header, c) =>
    let indent := header.increment.map fun n => if 0 ≤ outer then outer.toNat + n else n
    readBlock header outer { indent } c.rest c.index c.line c.column

end TypedClient.Yaml
