/-!
# Tokens of shell scripts

A script is read character by character: `Scan` holds what has been read, and `Scan.step` says what
one more character does to it.  A word is kept as pieces, so that what is replaced in it later and
what was quoted in it can still be told.
-/

namespace TypedClient.Filter.Shell

/-- A piece of a word, and whether it stands in double or single quotes. -/
inductive Piece where
  /-- Characters that stand for themselves. -/
  | text (chars : List Char) (quoted : Bool)
  /-- A parameter, which its value replaces. -/
  | parameter (name : List Char) (quoted : Bool)
  /-- A script, which what it writes replaces. -/
  | output (script : List Char) (quoted : Bool)
deriving DecidableEq

/-- The pieces of a word. -/
abbrev Word := List Piece

/-- A token. -/
inductive Token where
  /-- A word, and the number of the line that it starts on. -/
  | word (line : Nat) (pieces : Word)
  /-- A sign between words, and the digit before it that names a stream. -/
  | sign (stream : Option Char) (text : String)
deriving DecidableEq

/-- Where in the script the reading is. -/
inductive Mode where
  /-- Between words, or in a word outside quotes. -/
  | plain
  /-- In a comment. -/
  | comment
  /-- Behind a backslash. -/
  | escaped (quoted : Bool)
  /-- In single quotes. -/
  | single
  /-- In double quotes. -/
  | double
  /-- Behind a dollar sign. -/
  | dollar (quoted : Bool)
  /-- In the name of a parameter; in braces, if `braced`. -/
  | name (quoted braced : Bool) (chars : List Char)
  /-- In a script in parentheses. -/
  | nested (quoted : Bool) (depth : Nat) (chars : List Char)
  /-- Behind a character that is a sign, or the first half of one. -/
  | sign (stream : Option Char) (c : Char)
deriving DecidableEq

/-- What has been read of a script.  Lists that grow are kept from the last item to the first. -/
structure Scan where
  mode : Mode := .plain
  /-- The pieces of the word that has been begun. -/
  word? : Option Word := none
  tokens : List Token := []
  line : Nat := 1

namespace Scan

/-- Adds a piece to the word. -/
def add (s : Scan) (piece : Piece) : Scan :=
  let word := match piece, s.word?.getD [] with
    | .text more quoted, .text chars quoted' :: rest =>
      if quoted = quoted' then .text (chars ++ more) quoted :: rest
      else piece :: .text chars quoted' :: rest
    | piece, word => piece :: word
  { s with word? := some word }

/-- Goes on in plain or in quoted text. -/
def goOn (s : Scan) (quoted : Bool) : Scan :=
  { s with mode := if quoted then .double else .plain }

/-- Ends the word, if one has been begun. -/
def endWord (s : Scan) : Scan :=
  match s.word? with
  | none => s
  | some word => { s with word? := none, tokens := .word s.line word.reverse :: s.tokens }

/-- The digit that is the whole word begun. -/
def digit? (s : Scan) : Option Char :=
  match s.word? with
  | some [.text [c] false] => if c.isDigit then some c else none
  | _ => none

/-- Begins a sign. -/
def beginSign (s : Scan) (c : Char) : Scan :=
  match s.digit? with
  | some d =>
    if c == '<' || c == '>' then { s with word? := none, mode := .sign (some d) c }
    else { s.endWord with mode := .sign none c }
  | none => { s.endWord with mode := .sign none c }

/-- Whether a character is a sign or begins one. -/
def isSign (c : Char) : Bool := c == ';' || c == '&' || c == '|' || c == '<' || c == '>' ||
  c == '(' || c == ')'

/-- Reads a character outside quotes. -/
def plainStep (s : Scan) (c : Char) : Scan :=
  let s := { s with mode := .plain }
  if c == ' ' || c == '\t' then s.endWord
  else if c == '\n' then
    let s := s.endWord
    { s with tokens := .sign none "\n" :: s.tokens, line := s.line + 1 }
  else if c == '#' && s.word?.isNone then { s with mode := .comment }
  else if isSign c then s.beginSign c
  else if c == '\\' then { s with mode := .escaped false }
  else if c == '\'' then { s.add (.text [] true) with mode := .single }
  else if c == '"' then { s.add (.text [] true) with mode := .double }
  else if c == '$' then { s with mode := .dollar false }
  else s.add (.text [c] false)

/-- Reads a character in double quotes. -/
def doubleStep (s : Scan) (c : Char) : Scan :=
  let s := { s with mode := .double }
  if c == '"' then { s with mode := .plain }
  else if c == '\\' then { s with mode := .escaped true }
  else if c == '$' then { s with mode := .dollar true }
  else s.add (.text [c] true)

/-- Reads a character in plain or in quoted text. -/
def textStep (s : Scan) (quoted : Bool) (c : Char) : Scan :=
  if quoted then s.doubleStep c else s.plainStep c

/-- Whether a name can hold a character. -/
def isNameChar (c : Char) : Bool := c.isAlphanum || c == '_'

/-- Reads a character behind a dollar sign. -/
def dollarStep (s : Scan) (quoted : Bool) (c : Char) : Scan :=
  if c.isAlpha || c == '_' then { s with mode := .name quoted false [c] }
  else if c.isDigit || c == '@' || c == '*' || c == '#' || c == '?' || c == '$' || c == '!' then
    (s.add (.parameter [c] quoted)).goOn quoted
  else if c == '\x7b' then { s with mode := .name quoted true [] }
  else if c == '(' then { s with mode := .nested quoted 0 [] }
  else (s.add (.text ['$'] quoted)).textStep quoted c

/-- Whether two characters are one sign. -/
def areOneSign (c d : Char) : Bool :=
  (c == d && (c == '&' || c == '|' || c == ';' || c == '<' || c == '>')) ||
    (d == '&' && (c == '<' || c == '>')) || (c == '>' && d == '|')

/-- Reads a character. -/
def step (s : Scan) (c : Char) : Scan :=
  match s.mode with
  | .plain => s.plainStep c
  | .comment => if c == '\n' then s.plainStep c else s
  | .escaped false =>
    if c == '\n' then { s with mode := .plain } else (s.add (.text [c] true)).goOn false
  | .escaped true =>
    if c == '\n' then { s with mode := .double }
    else if c == '"' || c == '\\' || c == '$' || c == Char.ofNat 96 then
      (s.add (.text [c] true)).goOn true
    else (s.add (.text ['\\', c] true)).goOn true
  | .single => if c == '\'' then { s with mode := .plain } else s.add (.text [c] true)
  | .double => s.doubleStep c
  | .dollar quoted => s.dollarStep quoted c
  | .name quoted true chars =>
    if c == '\x7d' then (s.add (.parameter chars.reverse quoted)).goOn quoted
    else { s with mode := .name quoted true (c :: chars) }
  | .name quoted false chars =>
    if isNameChar c then { s with mode := .name quoted false (c :: chars) }
    else (s.add (.parameter chars.reverse quoted)).textStep quoted c
  | .nested quoted depth chars =>
    if c == '(' then { s with mode := .nested quoted (depth + 1) (c :: chars) }
    else if c == ')' then
      match depth with
      | 0 => (s.add (.output chars.reverse quoted)).goOn quoted
      | depth + 1 => { s with mode := .nested quoted depth (c :: chars) }
    else { s with mode := .nested quoted depth (c :: chars) }
  | .sign stream first =>
    if areOneSign first c then
      { s with mode := .plain, tokens := .sign stream (String.ofList [first, c]) :: s.tokens }
    else
      { s with tokens := .sign stream first.toString :: s.tokens }.plainStep c

/-- What is read when the script ends; nothing, if it ends in a quotation. -/
def finish? (s : Scan) : Option (List Token) :=
  match s.mode with
  | .plain | .comment => some s.endWord.tokens.reverse
  | .escaped false => some (s.add (.text ['\\'] false)).endWord.tokens.reverse
  | .dollar false => some (s.add (.text ['$'] false)).endWord.tokens.reverse
  | .name false false chars =>
    some (s.add (.parameter chars.reverse false)).endWord.tokens.reverse
  | .sign stream c => some (.sign stream c.toString :: s.tokens).reverse
  | _ => none

end Scan

/-- The tokens of a script, if every quotation in it is closed. -/
def tokens? (script : List Char) : Option (List Token) :=
  (script.foldl Scan.step {}).finish?

end TypedClient.Filter.Shell
