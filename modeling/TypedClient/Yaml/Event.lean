import TypedClient.Yaml.Token

/-!
# YAML events

The nodes of a document in the order in which they are written, with a start and an end for each
collection.  `Event.ofTokens?` finds them in a token list by predictive parsing: a stack holds what
is still to be read (`Goal`), and one token is enough to say how the first goal goes on.  A key, a
value or an item that the text leaves out is an empty plain scalar.  Nodes are repeated by the names of
anchors.
-/

namespace TypedClient.Yaml

/-- What may be said about a node beside its content. -/
structure Properties where
  /-- The name under which the node can be repeated. -/
  anchor : Option String := none
  /-- The tag, written out. -/
  tag : Option String := none
deriving DecidableEq

/-- A step through the nodes of a document, in which nodes are repeated by a reference of some
type. -/
inductive Event (Reference : Type) where
  /-- Another node once more. -/
  | alias (target : Reference)
  /-- A text; `plain` if it stands without quotes. -/
  | scalar (properties : Properties) (text : String) (plain : Bool)
  | sequenceStart (properties : Properties)
  | sequenceEnd
  | mappingStart (properties : Properties)
  | mappingEnd
deriving DecidableEq

/-- What is to be read next. -/
inductive Goal where
  /-- A node.  Only a `block` one may be a block collection, and only an `indentless` one a sequence
  whose hyphens stand under its key. -/
  | node (block indentless : Bool)
  /-- The items of a block sequence that remain. -/
  | blockItems
  /-- The items that remain of a block sequence that stands under its key. -/
  | indentlessItems
  /-- The pairs of a block mapping that remain. -/
  | blockPairs
  /-- The value of a pair of a block mapping. -/
  | blockValue
  /-- The items of a flow sequence that remain; `separated` if no comma is missing before them. -/
  | flowItems (separated : Bool)
  /-- The key of a pair that is an item of a flow sequence. -/
  | flowPairKey
  /-- The value of a pair that is an item of a flow sequence. -/
  | flowPairValue
  /-- The end of a pair that is an item of a flow sequence. -/
  | flowPairEnd
  /-- The pairs of a flow mapping that remain; `separated` if no comma is missing before them. -/
  | flowPairs (separated : Bool)
  /-- The value of a pair of a flow mapping. -/
  | flowValue
  /-- The value of a key without a colon in a flow mapping. -/
  | emptyValue
deriving DecidableEq

/-- What the tag handles of a document stand for. -/
abbrev TagHandles := List (String × String)

/-- What the first step to a goal yields: events, the goals that take its place, and the tokens that
are left. -/
structure Step where
  /-- The events. -/
  events : List (Event String) := []
  /-- The goals that take its place. -/
  goals : List Goal := []
  /-- The tokens that are left. -/
  rest : List Token

namespace Event

/-- A node that the text leaves out. -/
def empty : Event String := .scalar {} "" true

/-- A tag written out; none if its handle stands for nothing. -/
def resolveTag? (handles : TagHandles) (handle suffix : String) : Option String :=
  if handle.isEmpty then some suffix
  else (handles.find? fun h => h.1 == handle).map fun h => h.2 ++ suffix

/-- The properties at the beginning of a token list. -/
def properties? (handles : TagHandles) : List Token → Option (Properties × List Token)
  | .anchor a :: .tag h s :: rest | .tag h s :: .anchor a :: rest =>
    (resolveTag? handles h s).map fun tag => (⟨some a, some tag⟩, rest)
  | .anchor a :: rest => some (⟨some a, none⟩, rest)
  | .tag h s :: rest => (resolveTag? handles h s).map fun tag => (⟨none, some tag⟩, rest)
  | rest => some ({}, rest)

/-- The first step to a node whose properties have been read. -/
def stepContent? (block indentless : Bool) (p : Properties) : List Token → Option Step
  | .scalar text plain :: rest =>
    let p := if p.tag = some "!" then { p with tag := none } else p
    some { events := [.scalar p text plain], rest }
  | .flowSequenceStart :: rest =>
    some { events := [.sequenceStart p], goals := [.flowItems true], rest }
  | .flowMappingStart :: rest =>
    some { events := [.mappingStart p], goals := [.flowPairs true], rest }
  | tokens =>
    match block, indentless, tokens with
    | _, true, .blockEntry :: _ =>
      some { events := [.sequenceStart p], goals := [.indentlessItems], rest := tokens }
    | true, _, .blockSequenceStart :: rest =>
      some { events := [.sequenceStart p], goals := [.blockItems], rest }
    | true, _, .blockMappingStart :: rest =>
      some { events := [.mappingStart p], goals := [.blockPairs], rest }
    | _, _, _ =>
      if p.anchor.isSome || p.tag.isSome then
        some { events := [.scalar p "" true], rest := tokens }
      else none

/-- The first step to a node. -/
def stepNode? (handles : TagHandles) (block indentless : Bool) : List Token → Option Step
  | .alias name :: rest => some { events := [.alias name], rest }
  | tokens =>
    (properties? handles tokens).bind fun (p, tokens) => stepContent? block indentless p tokens

/-- A node and then a goal; the node is left out if the tokens start with one of a list. -/
def nodeUnless (stops : List Token) (node next : Goal) (tokens : List Token) : Step :=
  if tokens.head?.any stops.contains then { events := [empty], goals := [next], rest := tokens }
  else { goals := [node, next], rest := tokens }

/-- The first step to a goal. -/
def step? (handles : TagHandles) : Goal → List Token → Option Step
  | .node block indentless, tokens => stepNode? handles block indentless tokens
  | .blockItems, .blockEntry :: rest =>
    some (nodeUnless [.blockEntry, .blockEnd] (.node true false) .blockItems rest)
  | .blockItems, .blockEnd :: rest => some { events := [.sequenceEnd], rest }
  | .indentlessItems, .blockEntry :: rest =>
    some (nodeUnless [.blockEntry, .key, .value, .blockEnd] (.node true false) .indentlessItems rest)
  | .indentlessItems, tokens => some { events := [.sequenceEnd], rest := tokens }
  | .blockPairs, .key :: rest =>
    some (nodeUnless [.key, .value, .blockEnd] (.node true true) .blockValue rest)
  | .blockPairs, .blockEnd :: rest => some { events := [.mappingEnd], rest }
  | .blockValue, .value :: rest =>
    some (nodeUnless [.key, .value, .blockEnd] (.node true true) .blockPairs rest)
  | .blockValue, tokens => some { events := [empty], goals := [.blockPairs], rest := tokens }
  | .flowItems _, .flowSequenceEnd :: rest => some { events := [.sequenceEnd], rest }
  | .flowItems false, .flowEntry :: rest => some { goals := [.flowItems true], rest }
  | .flowItems false, _ => none
  | .flowItems true, .key :: rest =>
    some { events := [.mappingStart {}], goals := [.flowPairKey, .flowItems false], rest }
  | .flowItems true, tokens =>
    some { goals := [.node false false, .flowItems false], rest := tokens }
  | .flowPairKey, token :: rest =>
    if [.value, .flowEntry, .flowSequenceEnd].contains token then
      some { events := [empty], goals := [.flowPairValue], rest }
    else some { goals := [.node false false, .flowPairValue], rest := token :: rest }
  | .flowPairValue, .value :: rest =>
    some (nodeUnless [.flowEntry, .flowSequenceEnd] (.node false false) .flowPairEnd rest)
  | .flowPairValue, tokens => some { events := [empty], goals := [.flowPairEnd], rest := tokens }
  | .flowPairEnd, tokens => some { events := [.mappingEnd], rest := tokens }
  | .flowPairs _, .flowMappingEnd :: rest => some { events := [.mappingEnd], rest }
  | .flowPairs false, .flowEntry :: rest => some { goals := [.flowPairs true], rest }
  | .flowPairs false, _ => none
  | .flowPairs true, .key :: rest =>
    some (nodeUnless [.value, .flowEntry, .flowMappingEnd] (.node false false) .flowValue rest)
  | .flowPairs true, tokens =>
    some { goals := [.node false false, .emptyValue], rest := tokens }
  | .flowValue, .value :: rest =>
    some (nodeUnless [.flowEntry, .flowMappingEnd] (.node false false) (.flowPairs false) rest)
  | .flowValue, tokens => some { events := [empty], goals := [.flowPairs false], rest := tokens }
  | .emptyValue, tokens => some { events := [empty], goals := [.flowPairs false], rest := tokens }
  | _, _ => none

/-- Reads goals, one after the other; `done` holds the events so far, the last one first.  Of three
steps in a row one takes a token, apart from the steps that empty the stack of goals at the end, so
their number is bounded by that of the tokens. -/
def readGoals? (handles : TagHandles) : (steps : Nat) → (done : List (Event String)) → List Goal →
    List Token → Option (List (Event String) × List Token)
  | _, done, [], tokens => some (done.reverse, tokens)
  | 0, _, _ :: _, _ => none
  | steps + 1, done, goal :: goals, tokens =>
    match step? handles goal tokens with
    | some s => readGoals? handles steps (s.events.reverse ++ done) (s.goals ++ goals) s.rest
    | none => none

/-- Reads the node of a document. -/
def readRoot? (handles : TagHandles) (tokens : List Token) : Option (List (Event String) × List Token) :=
  readGoals? handles (8 * (tokens.length + 4)) [] [.node true false] tokens

/-- The handles that need no directive. -/
def defaultHandles : TagHandles := [("!", "!"), ("!!", "tag:yaml.org,2002:")]

/-- Whether a token begins or ends a document, or is a directive. -/
def isDocumentToken : Token → Bool
  | .versionDirective _ _ | .tagDirective _ _ | .documentStart | .documentEnd => true
  | _ => false

/-- Reads the directives of a document and the mark behind them: at most one version, which has to
be 1.1 or 1.2, and at most one expansion for each handle. -/
def readDirectives? (versioned : Bool) (handles : TagHandles) :
    List Token → Option (TagHandles × List Token)
  | .versionDirective major minor :: rest =>
    if versioned || major != 1 || (minor != 1 && minor != 2) then none
    else readDirectives? true handles rest
  | .tagDirective handle expansion :: rest =>
    if handles.any fun h => h.1 == handle then none
    else readDirectives? versioned (handles ++ [(handle, expansion)]) rest
  | .documentStart :: rest => some (handles ++ defaultHandles, rest)
  | _ => none

/-- Reads a document. -/
def readDocument? : List Token → Option (List (Event String) × List Token)
  | [] => some ([], [])
  | .documentEnd :: _ => none
  | token :: rest =>
    if isDocumentToken token then
      (readDirectives? false [] (token :: rest)).bind fun (handles, rest) =>
        if rest.head?.all isDocumentToken then some ([empty], rest) else readRoot? handles rest
    else readRoot? defaultHandles (token :: rest)

/-- The events of the only document of a text; none if there are several, or if the tokens do not
form a document.  A text without a document has no events. -/
def ofTokens? (tokens : List Token) : Option (List (Event String)) :=
  (readDocument? tokens).bind fun (events, rest) =>
    if rest.all (· == .documentEnd) then some events else none

end Event

end TypedClient.Yaml
