import TypedClient.Yaml.Cursor

/-!
# Scalars that fold

Quoted and plain scalars may run over several lines.  The blanks and breaks between two runs of text
form a gap, which stands for a single space if it holds one newline, and for its further breaks if
it holds more than one; a gap within a line stands for itself.

Both readers pass over the text once, character by character.
-/

namespace TypedClient.Yaml

/-- Blanks and breaks between two runs of text. -/
structure Gap where
  /-- The blanks before the first break, the last one first. -/
  blanks : List Char := []
  /-- Whether a line has ended in the gap. -/
  broken : Bool := false
  /-- The first break; nothing if it was escaped. -/
  first : List Char := []
  /-- The further breaks, the last one first. -/
  more : List Char := []

namespace Gap

/-- Adds a blank or a break. -/
def push (g : Gap) (c : Char) : Gap :=
  if isBreak c then
    if g.broken then { g with more := c :: g.more } else ⟨[], true, [c], g.more⟩
  else if g.broken then g else { g with blanks := c :: g.blanks }

/-- What a gap stands for. -/
def text (g : Gap) : List Char :=
  if g.broken then
    if g.first = ['\n'] then if g.more.isEmpty then [' '] else g.more.reverse
    else g.first ++ g.more.reverse
  else g.blanks.reverse

end Gap

/-! ## Quoted scalars -/

/-- Where the reader of a quoted scalar stands. -/
inductive QuotedState where
  /-- In a run of text. -/
  | run
  /-- In a gap. -/
  | gap (gap : Gap)
  /-- Behind a backslash. -/
  | escape
  /-- In the digits of a character code. -/
  | code (missing value : Nat)

/-- The character that a letter behind a backslash stands for. -/
def escapedChar? (c : Char) : Option Char :=
  match c with
  | '0' => some '\x00'
  | 'a' => some '\x07'
  | 'b' => some '\x08'
  | 't' | '\t' => some '\t'
  | 'n' => some '\n'
  | 'v' => some '\x0b'
  | 'f' => some '\x0c'
  | 'r' => some '\r'
  | 'e' => some '\x1b'
  | ' ' => some ' '
  | '"' => some '"'
  | '/' => some '/'
  | '\\' => some '\\'
  | 'N' => some (Char.ofNat 0x85)
  | '_' => some (Char.ofNat 0xA0)
  | 'L' => some (Char.ofNat 0x2028)
  | 'P' => some (Char.ofNat 0x2029)
  | _ => none

/-- The number of digits of the character code that a letter behind a backslash announces. -/
def codeLength? (c : Char) : Option Nat :=
  match c with
  | 'x' => some 2
  | 'u' => some 4
  | 'U' => some 8
  | _ => none

/-- The value of a hexadecimal digit. -/
def hexValue? (c : Char) : Option Nat :=
  if '0' ≤ c ∧ c ≤ '9' then some (c.toNat - 48)
  else if 'a' ≤ c ∧ c ≤ 'f' then some (c.toNat - 87)
  else if 'A' ≤ c ∧ c ≤ 'F' then some (c.toNat - 55)
  else none

/-- The character of a code. -/
def charOfCode? (n : Nat) : Option Char :=
  if h : n.isValidChar then some (Char.ofNatAux n h) else none

/-- Reads a quoted scalar behind its opening quote; `taken` holds its text so far, the last
character first. -/
def readQuoted (single : Bool) : QuotedState → (taken rest : List Char) →
    (index line column : Nat) → Option (List Char × Cursor)
  | _, _, [], _, _, _ => none
  | .escape, taken, c :: rest, index, line, column =>
    if isBreak c then
      readQuoted single (.gap { broken := true }) taken rest (index + 1) (line + 1) 0
    else
      match escapedChar? c, codeLength? c with
      | some e, _ => readQuoted single .run (e :: taken) rest (index + 1) line (column + 1)
      | none, some n => readQuoted single (.code n 0) taken rest (index + 1) line (column + 1)
      | none, none => none
  | .code missing value, taken, c :: rest, index, line, column =>
    match hexValue? c with
    | none => none
    | some d =>
      if missing = 1 then
        match charOfCode? (value * 16 + d) with
        | some e => readQuoted single .run (e :: taken) rest (index + 1) line (column + 1)
        | none => none
      else
        readQuoted single (.code (missing - 1) (value * 16 + d)) taken rest (index + 1) line
          (column + 1)
  | state, taken, c :: rest, index, line, column =>
    let gap := match state with | .gap g => g | _ => {}
    if isBreak c then readQuoted single (.gap (gap.push c)) taken rest (index + 1) (line + 1) 0
    else if isBlank c then
      readQuoted single (.gap (gap.push c)) taken rest (index + 1) line (column + 1)
    else if column = 0 ∧ startsDocumentMark (c :: rest) then none
    else
      let taken := gap.text.reverse ++ taken
      if single then
        if c = '\'' then
          match rest with
          | '\'' :: rest => readQuoted single .run ('\'' :: taken) rest (index + 2) line (column + 2)
          | rest => some (taken.reverse, ⟨rest, index + 1, line, column + 1⟩)
        else readQuoted single .run (c :: taken) rest (index + 1) line (column + 1)
      else if c = '"' then some (taken.reverse, ⟨rest, index + 1, line, column + 1⟩)
      else if c = '\\' then readQuoted single .escape taken rest (index + 1) line (column + 1)
      else readQuoted single .run (c :: taken) rest (index + 1) line (column + 1)

/-- Reads the quoted scalar that begins at the cursor. -/
def quotedScalar? (single : Bool) (c : Cursor) : Option (List Char × Cursor) :=
  readQuoted single .run [] (c.rest.drop 1) (c.index + 1) c.line (c.column + 1)

/-! ## Plain scalars -/

/-- What a character means to a plain scalar. -/
inductive PlainVerdict where
  /-- It belongs to the scalar. -/
  | text
  /-- The scalar ends before it. -/
  | stop
  /-- It must not stand there. -/
  | wrong

/-- What the first character of a text means to a plain scalar that has reached it. -/
def plainVerdict (flow : Bool) : List Char → PlainVerdict
  | ':' :: rest =>
    if startsBlank rest then .stop
    else if flow && (rest.head?.any fun c => ",?[]\x7b\x7d".toList.contains c) then .wrong
    else .text
  | c :: _ => if flow && ",[]\x7b\x7d".toList.contains c then .stop else .text
  | [] => .stop

/-- Reads a plain scalar; `indent` is the least column of a further line outside flow collections.
The answer holds the text, whether a line has ended behind it, and the place behind the gap that
follows it. -/
def readPlain (flow : Bool) (indent : Int) : (gap : Option Gap) → (taken rest : List Char) →
    (index line column : Nat) → Option (List Char × Bool × Cursor)
  | gap, taken, [], index, line, column =>
    some (taken.reverse, (gap.map Gap.broken).getD false, ⟨[], index, line, column⟩)
  | gap, taken, c :: rest, index, line, column =>
    let here := gap.getD {}
    let stop := some (taken.reverse, here.broken, Cursor.mk (c :: rest) index line column)
    if isBreak c then readPlain flow indent (some (here.push c)) taken rest (index + 1) (line + 1) 0
    else if isBlank c then
      if here.broken && c == '\t' && (column : Int) < indent then none
      else readPlain flow indent (some (here.push c)) taken rest (index + 1) line (column + 1)
    else if gap.isSome && ((!flow && (column : Int) < indent) || c == '#' ||
        (column == 0 && startsDocumentMark (c :: rest))) then stop
    else
      match plainVerdict flow (c :: rest) with
      | .wrong => none
      | .stop => stop
      | .text =>
        readPlain flow indent none (c :: here.text.reverse ++ taken) rest (index + 1) line (column + 1)

/-- Reads the plain scalar that begins at the cursor. -/
def plainScalar? (flow : Bool) (indent : Int) (c : Cursor) : Option (List Char × Bool × Cursor) :=
  readPlain flow indent none [] c.rest c.index c.line c.column

end TypedClient.Yaml
