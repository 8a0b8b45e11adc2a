import TypedClient.Entries
import TypedClient.Yaml.Event
import TypedClient.Yaml.Scalar

/-!
# Values from events

The events of a document are read with a stack of the collections that are open.  A repeated node is
read again: its events are put in front of those that remain.  A document may ask for that a hundred
times for each of its events, and no more (`Value.build`), and at most 128 collections may be open
at a time, so a node that contains itself is refused.
-/

namespace TypedClient.Yaml

/-! ## Anchors -/

namespace Event

/-- The anchor at an event. -/
def anchor? {Reference : Type} : Event Reference → Option String
  | .scalar p _ _ | .sequenceStart p | .mappingStart p => p.anchor
  | _ => none

/-- The numbers of the anchors behind an event.  An anchor is numbered by how many names there are
already, also where its name comes a second time, so that two anchors can have one number. -/
def numbersAfter {Reference : Type} (numbers : Entries Nat) (event : Event Reference) :
    Entries Nat :=
  match event.anchor? with
  | some name => numbers.put name numbers.length
  | none => numbers

/-- Replaces the names of repeated nodes by numbers; none if an anchor is missing. -/
def numbered? (numbers : Entries Nat) : List (Event String) → Option (List (Event Nat))
  | [] => some []
  | event :: rest =>
    let more := numbered? (event.numbersAfter numbers) rest
    match event with
    | .alias name =>
      match numbers.get? name with
      | some n => more.map (.alias n :: ·)
      | none => none
    | .scalar p text plain => more.map (.scalar p text plain :: ·)
    | .sequenceStart p => more.map (.sequenceStart p :: ·)
    | .sequenceEnd => more.map (.sequenceEnd :: ·)
    | .mappingStart p => more.map (.mappingStart p :: ·)
    | .mappingEnd => more.map (.mappingEnd :: ·)

/-- For each numbered anchor, the events from it on; the last anchor stands first. -/
def anchored (numbers : Entries Nat) : List (Event Nat) → List (Nat × List (Event Nat))
  | [] => []
  | event :: rest =>
    let later := anchored (event.numbersAfter numbers) rest
    if event.anchor?.isSome then later ++ [(numbers.length, event :: rest)] else later

/-- The events of the first node of a list, inside a number of open collections. -/
def firstNode (opened : Nat) : List (Event Nat) → List (Event Nat)
  | [] => []
  | event :: rest =>
    match event with
    | .sequenceStart _ | .mappingStart _ => event :: firstNode (opened + 1) rest
    | .sequenceEnd | .mappingEnd =>
      if opened ≤ 1 then [event] else event :: firstNode (opened - 1) rest
    | _ => if opened = 0 then [event] else event :: firstNode opened rest

end Event

/-! ## Values -/

/-- A collection that is not complete. -/
inductive Frame where
  /-- A sequence with the items so far, the last one first. -/
  | sequence (tag : Option String) (items : List Value)
  /-- A mapping with the pairs so far, the last one first, and a key that waits for its value. -/
  | mapping (tag : Option String) (pairs : List (Value × Value)) (key : Option Value)

namespace Value

/-- A value with the tag it bears, if that begins with an exclamation mark; the name behind the mark
must not be empty. -/
def withTag? (tag : Option String) (value : Value) : Option Value :=
  match localTag? tag with
  | none => some value
  | some name => if name.isEmpty then none else some (.tagged name value)

/-- Puts a complete value where it belongs; none if it is a key for the second time.  Without an open
collection it is the value of the document. -/
def place? (value : Value) : List Frame → Option (List Frame × Option Value)
  | [] => some ([], some value)
  | .sequence tag items :: outer => some (.sequence tag (value :: items) :: outer, none)
  | .mapping tag pairs none :: outer =>
    if pairs.any fun p => p.1.same value then none
    else some (.mapping tag pairs (some value) :: outer, none)
  | .mapping tag pairs (some key) :: outer =>
    some (.mapping tag ((key, value) :: pairs) none :: outer, none)

/-- Opens a collection inside others. -/
def open? (frame : Frame) (frames : List Frame) : Option (List Frame × Option Value) :=
  if frames.length < 128 then some (frame :: frames, none) else none

/-- What an event does to the open collections. -/
def step? (frames : List Frame) : Event Nat → Option (List Frame × Option Value)
  | .alias _ => none
  | .scalar p text plain =>
    (scalarValue? p.tag text plain).bind fun v => (withTag? p.tag v).bind (place? · frames)
  | .sequenceStart p => open? (.sequence p.tag []) frames
  | .mappingStart p => open? (.mapping p.tag [] none) frames
  | .sequenceEnd =>
    match frames with
    | .sequence tag items :: outer => (withTag? tag (.sequence items.reverse)).bind (place? · outer)
    | _ => none
  | .mappingEnd =>
    match frames with
    | .mapping tag pairs none :: outer =>
      (withTag? tag (.mapping pairs.reverse)).bind (place? · outer)
    | _ => none

/-- Reads events; `anchored` tells where the repeated nodes begin, and `repeats` is the number of
times that a node may still be repeated. -/
def build (anchored : List (Nat × List (Event Nat))) (repeats : Nat) (frames : List Frame)
    (events : List (Event Nat)) : Option Value :=
  match events with
  | [] => none
  | .alias n :: rest =>
    match repeats, anchored.find? fun a => a.1 == n with
    | repeats + 1, some (_, node) => build anchored repeats frames (Event.firstNode 0 node ++ rest)
    | _, _ => none
  | event :: rest =>
    match step? frames event with
    | none => none
    | some (_, some value) => if rest.isEmpty then some value else none
    | some (frames, none) => build anchored repeats frames rest
termination_by (repeats, events.length)

/-- The value of a document; a document without events is `null`. -/
def ofEvents? (events : List (Event String)) : Option Value :=
  if events.isEmpty then some .null
  else
    (Event.numbered? [] events).bind fun events =>
      build (Event.anchored [] events) (100 * events.length) [] events

end Value

end TypedClient.Yaml
