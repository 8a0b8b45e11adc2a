import TypedClient.Yaml.Token.Block
import TypedClient.Yaml.Token.Flow
import TypedClient.Yaml.Token.Property

/-!
# Cutting a YAML text into tokens

The tokens come one after the other, with one exception: whether a text is a key shows only at the
colon behind it.  So the lexer remembers where a key may have begun, one place for the surroundings
and one for each open flow collection, and at the colon it puts `key` there, and before it
`blockMappingStart` if the key is the first of its mapping (`Lexer.insert`).

Outside flow collections the column of a token says how many block collections end before it; their
columns form a stack.
-/

namespace TypedClient.Yaml

/-- A place where a key may have begun. -/
structure KeyPlace where
  /-- Whether the text is wrong if no key begins there. -/
  required : Bool
  /-- The number of tokens before it. -/
  tokens : Nat
  /-- The number of characters before it. -/
  index : Nat
  /-- Its line. -/
  line : Nat
  /-- Its column. -/
  column : Nat

/-- A lexer on its way through a text. -/
structure Lexer where
  /-- The place in the text. -/
  cursor : Cursor
  /-- The tokens so far, the last one first. -/
  tokens : List Token := []
  /-- The columns of the open block collections, the innermost first. -/
  indents : List Nat := []
  /-- Whether a key may begin at the cursor. -/
  keyAllowed : Bool := true
  /-- Where a key may have begun in the innermost collection. -/
  keyPlace : Option KeyPlace := none
  /-- Where keys may have begun around each open flow collection, the innermost first. -/
  outerKeyPlaces : List (Option KeyPlace) := []

namespace Lexer

/-- Whether a flow collection is open. -/
def inFlow (l : Lexer) : Bool := !l.outerKeyPlaces.isEmpty

/-- The column of the innermost block collection, and `-1` outside all of them. -/
def indent (l : Lexer) : Int := (l.indents.head?.map Int.ofNat).getD (-1)

/-- Adds a token. -/
def emit (l : Lexer) (token : Token) : Lexer := { l with tokens := token :: l.tokens }

/-- Puts a token behind a number of tokens. -/
def insert (l : Lexer) (place : Nat) (token : Token) : Lexer :=
  let later := l.tokens.length - place
  { l with tokens := l.tokens.take later ++ token :: l.tokens.drop later }

/-- Adds a token of a number of characters that stands at the cursor. -/
def emitHere (l : Lexer) (width : Nat) (token : Token) : Lexer :=
  { l.emit token with cursor := l.cursor.skip width }

/-- Ends the block collections beyond a column. -/
def unroll (l : Lexer) (column : Int) : Lexer :=
  let ended := l.indents.takeWhile fun indent : Nat => column < (indent : Int)
  { l with
    indents := l.indents.drop ended.length
    tokens := List.replicate ended.length .blockEnd ++ l.tokens }

/-- Ends the block collections beyond the column of the cursor, which is outside flow collections. -/
def unrollHere (l : Lexer) : Lexer := if l.inFlow then l else l.unroll l.cursor.column

/-- Begins a block collection at a column, behind a number of tokens, unless one begins there
already. -/
def roll (l : Lexer) (column place : Nat) (token : Token) : Lexer :=
  if !l.inFlow && l.indent < column then
    { l.insert place token with indents := column :: l.indents }
  else l

/-- Begins a block collection at the cursor. -/
def rollHere (l : Lexer) (token : Token) : Lexer := l.roll l.cursor.column l.tokens.length token

/-- Gives up the place where a key may have begun; the text is wrong if one had to. -/
def dropKeyPlace? (l : Lexer) : Option Lexer :=
  if l.keyPlace.any KeyPlace.required then none else some { l with keyPlace := none }

/-- Notes that a key may begin at the cursor. -/
def noteKeyPlace? (l : Lexer) : Option Lexer :=
  if l.keyAllowed then
    l.dropKeyPlace?.map fun l =>
      { l with
        keyPlace := some
          { required := !l.inFlow && l.indent == l.cursor.column
            tokens := l.tokens.length
            index := l.cursor.index
            line := l.cursor.line
            column := l.cursor.column } }
  else some l

/-- Whether a key that began at a place would have to have ended before the cursor: it takes one
line and at most 1024 characters. -/
def isStale (l : Lexer) (place : KeyPlace) : Bool :=
  place.line < l.cursor.line || place.index + 1024 < l.cursor.index

/-- A place that is no longer possible is given up; the text is wrong if a key had to begin there. -/
def refresh? (l : Lexer) : Option KeyPlace → Option (Option KeyPlace)
  | none => some none
  | some place =>
    if l.isStale place then if place.required then none else some none else some (some place)

/-- Gives up all places that are no longer possible. -/
def dropStale? (l : Lexer) : Option Lexer :=
  (l.refresh? l.keyPlace).bind fun keyPlace =>
    (l.outerKeyPlaces.mapM l.refresh?).map fun outerKeyPlaces => { l with keyPlace, outerKeyPlaces }

/-- The lexer at its next token, with the block collections ended that end before it. -/
def toToken? (l : Lexer) : Option Lexer :=
  let (cursor, keyAllowed) := l.cursor.toToken l.inFlow l.keyAllowed
  ({ l with cursor, keyAllowed }.dropStale?).map unrollHere

/-! ## The kinds of tokens -/

/-- The tokens behind the end of the text. -/
def finish? (l : Lexer) : Option (List Token) :=
  let l := if l.inFlow then l else l.unroll (-1)
  l.dropKeyPlace?.map fun l => l.tokens.reverse

/-- A mark between documents. -/
def documentMark? (l : Lexer) (token : Token) : Option Lexer :=
  ((if l.inFlow then l else l.unroll (-1)).dropKeyPlace?).map fun l =>
    { l.emitHere 3 token with keyAllowed := false }

/-- A directive. -/
def directiveLine? (l : Lexer) : Option Lexer :=
  ((if l.inFlow then l else l.unroll (-1)).dropKeyPlace?).bind fun l =>
    (directive? l.cursor).map fun (token, cursor) =>
      { l.emit token with cursor, keyAllowed := false }

/-- The beginning of a flow collection. -/
def openFlow? (l : Lexer) (token : Token) : Option Lexer :=
  l.noteKeyPlace?.map fun l =>
    { l.emitHere 1 token with
      keyAllowed := true
      keyPlace := none
      outerKeyPlaces := l.keyPlace :: l.outerKeyPlaces }

/-- The end of a flow collection; it may also stand where none is open. -/
def closeFlow? (l : Lexer) (token : Token) : Option Lexer :=
  l.dropKeyPlace?.map fun l =>
    { l.emitHere 1 token with
      keyAllowed := false
      keyPlace := (l.outerKeyPlaces.head?).getD l.keyPlace
      outerKeyPlaces := l.outerKeyPlaces.drop 1 }

/-- A comma in a flow collection. -/
def flowEntry? (l : Lexer) : Option Lexer :=
  l.dropKeyPlace?.map fun l => { l.emitHere 1 .flowEntry with keyAllowed := true }

/-- The hyphen before an item of a block sequence. -/
def blockEntry? (l : Lexer) : Option Lexer :=
  if l.inFlow || l.keyAllowed then
    (l.rollHere .blockSequenceStart).dropKeyPlace?.map fun l =>
      { l.emitHere 1 .blockEntry with keyAllowed := true }
  else none

/-- The question mark before a key. -/
def markedKey? (l : Lexer) : Option Lexer :=
  if l.inFlow || l.keyAllowed then
    (l.rollHere .blockMappingStart).dropKeyPlace?.map fun l =>
      { l.emitHere 1 .key with keyAllowed := !l.inFlow }
  else none

/-- The colon before a value.  If a key may have begun before, it did. -/
def mappedValue? (l : Lexer) : Option Lexer :=
  match l.keyPlace with
  | some place =>
    let l := (l.insert place.tokens .key).roll place.column place.tokens .blockMappingStart
    some { l.emitHere 1 .value with keyPlace := none, keyAllowed := false }
  | none =>
    if l.inFlow || l.keyAllowed then
      let l := l.rollHere .blockMappingStart
      some { l.emitHere 1 .value with keyAllowed := !l.inFlow }
    else none

/-- A token that may be a key, or stand before one. -/
def node? (l : Lexer) (read : Cursor → Option (Token × Cursor)) : Option Lexer :=
  l.noteKeyPlace?.bind fun l =>
    (read l.cursor).map fun (token, cursor) => { l.emit token with cursor, keyAllowed := false }

/-- A block scalar. -/
def block? (l : Lexer) (literal : Bool) : Option Lexer :=
  l.dropKeyPlace?.bind fun l =>
    (blockScalar? literal l.indent l.cursor).map fun (text, cursor) =>
      { l.emit (.scalar (String.ofList text) false) with cursor, keyAllowed := true }

/-- A quoted scalar. -/
def quoted? (l : Lexer) (single : Bool) : Option Lexer :=
  l.node? fun c =>
    (quotedScalar? single c).map fun (text, c) => (.scalar (String.ofList text) false, c)

/-- A plain scalar; a line that ended behind it lets a key begin. -/
def plain? (l : Lexer) : Option Lexer :=
  l.noteKeyPlace?.bind fun l =>
    (plainScalar? l.inFlow (l.indent + 1) l.cursor).map fun (text, lineEnded, cursor) =>
      { l.emit (.scalar (String.ofList text) true) with cursor, keyAllowed := lineEnded }

/-- Whether a plain scalar can begin with a text. -/
def startsPlain (flow : Bool) : List Char → Bool
  | '-' :: rest => !rest.head?.any isBlank
  | '?' :: rest | ':' :: rest => !flow && !startsBlank rest
  | c :: _ => !isBlank c && !"-?:,[]\x7b\x7d#&*!|>'\"%@\x60".toList.contains c
  | [] => false

/-- The token that begins at the cursor with a given character. -/
def token? (l : Lexer) (c : Char) (rest : List Char) : Option Lexer :=
  let separate := startsBlank rest
  match c with
  | '[' => l.openFlow? .flowSequenceStart
  | '\x7b' => l.openFlow? .flowMappingStart
  | ']' => l.closeFlow? .flowSequenceEnd
  | '\x7d' => l.closeFlow? .flowMappingEnd
  | ',' => l.flowEntry?
  | '*' => l.node? fun c => (anchorName? c).map fun (name, c) => (.alias name, c)
  | '&' => l.node? fun c => (anchorName? c).map fun (name, c) => (.anchor name, c)
  | '!' => l.node? (tagToken? l.inFlow)
  | '\'' => l.quoted? true
  | '"' => l.quoted? false
  | c =>
    if c == '-' && separate then l.blockEntry?
    else if c == '?' && (l.inFlow || separate) then l.markedKey?
    else if c == ':' && (l.inFlow || separate) then l.mappedValue?
    else if c == '|' && !l.inFlow then l.block? true
    else if c == '>' && !l.inFlow then l.block? false
    else if startsPlain l.inFlow (c :: rest) then l.plain?
    else none

/-- The next token, at a cursor that is not at the end. -/
def next? (l : Lexer) (c : Char) (rest : List Char) : Option Lexer :=
  if l.cursor.column = 0 ∧ c = '%' then l.directiveLine?
  else if l.cursor.column = 0 ∧ startsDocumentMark (c :: rest) then
    l.documentMark? (if c = '-' then .documentStart else .documentEnd)
  else l.token? c rest

/-- Reads tokens up to the end of the text; each takes a character at least, so the number of
characters bounds the number of steps. -/
def run : (steps : Nat) → Lexer → Option (List Token)
  | 0, _ => none
  | steps + 1, l =>
    l.toToken?.bind fun l =>
      match l.cursor.rest with
      | [] => l.finish?
      | c :: rest => (l.next? c rest).bind (run steps)

end Lexer

/-- The tokens of a text; none if it is not well formed. -/
def tokens? (text : List Char) : Option (List Token) :=
  if text.all isPrintable then
    Lexer.run (text.length + 1) { cursor := Cursor.start (normalize text) }
  else none

end TypedClient.Yaml
