/-!
# Positions in a YAML text

A cursor is a place in a text: what is left of the text, and how many characters, lines and columns
lie behind.  Before anything is read, the line breaks of the text are made equal (`normalize`), so
that a break is one character: a newline, or one of the separators U+2028 and U+2029, which keep
their identity.
-/

namespace TypedClient.Yaml

/-- Whether a character may stand in a YAML text at all. -/
def isPrintable (c : Char) : Bool :=
  let n := c.toNat
  n == 9 || n == 10 || n == 13 || (0x20 ≤ n && n ≤ 0x7E) || n == 0x85 || (0xA0 ≤ n && n ≤ 0xD7FF) ||
    (0xE000 ≤ n && n ≤ 0xFFFD) || 0x10000 ≤ n

/-- Writes every line break that is not a separator as a newline. -/
def normalize : List Char → List Char
  | '\r' :: '\n' :: rest => '\n' :: normalize rest
  | c :: rest => (if c = '\r' || c.toNat = 0x85 then '\n' else c) :: normalize rest
  | [] => []

/-- Whether a character is a line break. -/
def isBreak (c : Char) : Bool := c == '\n' || c.toNat == 0x2028 || c.toNat == 0x2029

/-- Whether a character is a space or a tab. -/
def isBlank (c : Char) : Bool := c == ' ' || c == '\t'

/-- Whether a text starts with a blank or a break, or is empty. -/
def startsBlank : List Char → Bool
  | [] => true
  | c :: _ => isBlank c || isBreak c

/-- Whether a text starts with a mark between documents, `---` or `...` followed by a blank. -/
def startsDocumentMark : List Char → Bool
  | '-' :: '-' :: '-' :: rest => startsBlank rest
  | '.' :: '.' :: '.' :: rest => startsBlank rest
  | _ => false

/-- Whether a character can stand in an anchor or in the name of a directive. -/
def isWordChar (c : Char) : Bool := c.isAlphanum || c == '_' || c == '-'

/-- A place in a text. -/
structure Cursor where
  /-- The text from the place on. -/
  rest : List Char
  /-- The number of characters before it. -/
  index : Nat
  /-- The number of lines before it. -/
  line : Nat
  /-- The number of characters before it on its line. -/
  column : Nat

namespace Cursor

/-- The beginning of a text. -/
def start (text : List Char) : Cursor := ⟨text, 0, 0, 0⟩

/-- Passes over characters of a line. -/
def skip (c : Cursor) (n : Nat) : Cursor := ⟨c.rest.drop n, c.index + n, c.line, c.column + n⟩

/-- Passes over a line break. -/
def newline (c : Cursor) : Cursor := ⟨c.rest.drop 1, c.index + 1, c.line + 1, 0⟩

/-- The longest run of characters of a class, which contains no break, and the place behind it. -/
def span (p : Char → Bool) (c : Cursor) : List Char × Cursor :=
  let run := c.rest.takeWhile p
  (run, c.skip run.length)

/-- Passes over the blanks, a comment, and the break at the end of a line; none if anything else is
left on the line. -/
def endOfLine? (c : Cursor) : Option Cursor :=
  let c := (c.span isBlank).2
  let c := if c.rest.head? = some '#' then (c.span fun x => !isBreak x).2 else c
  match c.rest with
  | [] => some c
  | x :: _ => if isBreak x then some c.newline else none

/-- The place of the next token, behind blanks, comments and breaks, and whether a key may stand
there.  Outside flow collections a new line allows a key, and a tab is no indentation. -/
def toTokenFrom (flow : Bool) : (comment keyAllowed : Bool) → (rest : List Char) →
    (index line column : Nat) → Cursor × Bool
  | _, keyAllowed, [], index, line, column => (⟨[], index, line, column⟩, keyAllowed)
  | comment, keyAllowed, x :: rest, index, line, column =>
    if isBreak x then toTokenFrom flow false (keyAllowed || !flow) rest (index + 1) (line + 1) 0
    else if comment || x == '#' then
      toTokenFrom flow true keyAllowed rest (index + 1) line (column + 1)
    else if x == ' ' || (x == '\t' && (flow || !keyAllowed)) ||
        (x.toNat == 0xFEFF && column == 0) then
      toTokenFrom flow false keyAllowed rest (index + 1) line (column + 1)
    else (⟨x :: rest, index, line, column⟩, keyAllowed)

/-- The place of the next token, and whether a key may stand there. -/
def toToken (flow keyAllowed : Bool) (c : Cursor) : Cursor × Bool :=
  toTokenFrom flow false keyAllowed c.rest c.index c.line c.column

end Cursor

end TypedClient.Yaml
