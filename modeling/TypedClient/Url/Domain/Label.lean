import TypedClient.Text.Composition
import TypedClient.Url.Domain.Table

/-!
# Labels of domain names

Which texts may stand between the points of a domain name.  A label does not begin with a combining
mark, an invisible joiner stands only where it makes a difference, and a name in which some writing
runs from right to left has in each of its labels one direction only.
-/

namespace TypedClient.Url.Domain

/-! ## Joiners -/

/-- The combining class of the signs that take away a vowel. -/
def viramaClass : Nat := 9

/-- Whether characters on both sides would join without the non-joiner between them. -/
def separatesJoined (before after : List Char) : Bool :=
  (before.dropWhile (Text.inTable joinsThrough)).head?.any (Text.inTable joinsNext) &&
    (after.dropWhile (Text.inTable joinsThrough)).head?.any (Text.inTable joinsPrevious)

/-- Whether a joiner may stand behind a text, given in reverse, and before another. -/
def joinerFits (joins : Bool) (before after : List Char) : Bool :=
  before.head?.any (Text.combiningClass · == viramaClass) ||
    (!joins && separatesJoined before after)

/-- Whether every joiner of a text may stand where it does; `before` is the text before it, in
reverse. -/
def joinersFit : (before text : List Char) → Bool
  | _, [] => true
  | before, c :: rest =>
    (if c.toNat = 0x200C then joinerFits false before rest
      else if c.toNat = 0x200D then joinerFits true before rest
      else true) && joinersFit (c :: before) rest

/-! ## Direction -/

/-- A class of writing direction. -/
inductive Direction where
  | leftToRight
  | rightToLeft
  | arabicLetter
  | arabicNumber
  | europeanNumber
  /-- Signs that go with numbers, signs without a direction, and marks. -/
  | neutral
  | mark
  | other
deriving DecidableEq

/-- The class with a number of the table. -/
def Direction.ofNumber (n : Nat) : Direction :=
  if n = 0 then .leftToRight
  else if n = 1 then .rightToLeft
  else if n = 2 then .arabicLetter
  else if n = 3 then .arabicNumber
  else if n = 4 then .europeanNumber
  else if n ≤ 9 then .neutral
  else if n = 10 then .mark
  else .other

/-- The class of a character. -/
def direction (c : Char) : Direction := .ofNumber (Text.valueIn directions c)

/-- Whether a class makes a name one in which writing runs from right to left. -/
def Direction.isRight : Direction → Bool
  | .rightToLeft | .arabicLetter | .arabicNumber => true
  | _ => false

/-- Whether the classes of a label are those of one direction. -/
def oneDirection (label : List Direction) : Bool :=
  let last := (label.reverse.dropWhile (· == .mark)).head?
  match label with
  | [] => true
  | .leftToRight :: _ =>
    (label.all fun d => [.leftToRight, .europeanNumber, .neutral, .mark].contains d) &&
      last.any fun d => [.leftToRight, .europeanNumber].contains d
  | .rightToLeft :: _ | .arabicLetter :: _ =>
    (label.all fun d => [.rightToLeft, .arabicLetter, .arabicNumber, .europeanNumber, .neutral,
        .mark].contains d) &&
      (last.any fun d => [.rightToLeft, .arabicLetter, .arabicNumber, .europeanNumber].contains d) &&
      !(label.contains .arabicNumber && label.contains .europeanNumber)
  | _ => false

/-- Whether the labels of a name run in one direction each, where that matters. -/
def directionsFit (labels : List (List Char)) : Bool :=
  let classes := labels.map fun label => label.map direction
  !(classes.any fun label => label.any Direction.isRight) || classes.all oneDirection

/-! ## Labels -/

/-- Whether a text may be a label, apart from its direction. -/
def isLabel (label : List Char) : Bool :=
  !label.head?.any (Text.inTable marks) && joinersFit [] label

end TypedClient.Url.Domain
