import TypedClient.Text.Composition.Table

/-!
# Composition

The normalization form C of a text: characters are taken apart, marks that follow a letter are put
into a fixed order, and then everything is composed that can be.  A mark is composed with the letter
before it unless a mark of the same class, or of a higher one, stands between.  The syllables of
Hangul are composed by arithmetic.

Characters that have but one part count as replaced already, and are left alone.
-/

namespace TypedClient.Text

/-- The combining class of a character. -/
def combiningClass (c : Char) : Nat := valueIn combiningClasses c

/-- The parts of a syllable of Hangul. -/
def hangulParts? (c : Char) : Option (List Char) :=
  let n := c.toNat
  if 0xAC00 ≤ n ∧ n ≤ 0xD7A3 then
    let s := n - 0xAC00
    let tail := if s % 28 = 0 then [] else [Char.ofNat (0x11A7 + s % 28)]
    some (Char.ofNat (0x1100 + s / 588) :: Char.ofNat (0x1161 + s % 588 / 28) :: tail)
  else none

/-- The parts of a character, taken apart a number of times. -/
def decomposeChar : (times : Nat) → Char → List Char
  | 0, c => [c]
  | times + 1, c =>
    match hangulParts? c with
    | some parts => parts
    | none =>
      match (entryOf? composites c).map CharEntry.values with
      | some [a, b] => decomposeChar times (Char.ofNat a) ++ [Char.ofNat b]
      | _ => [c]

/-- Puts a mark before the marks that it does not have to follow. -/
def insertMark (mark : Char) : List Char → List Char
  | [] => [mark]
  | c :: rest =>
    if combiningClass c ≠ 0 ∧ combiningClass c < combiningClass mark then c :: insertMark mark rest
    else mark :: c :: rest

/-- Puts the marks behind each letter in order. -/
def orderMarks (text : List Char) : List Char :=
  text.foldr (fun c rest => if combiningClass c = 0 then c :: rest else insertMark c rest) []

/-- The syllable of two parts of a syllable of Hangul. -/
def composeHangul? (a b : Char) : Option Char :=
  let m := a.toNat
  let n := b.toNat
  if 0x1100 ≤ m ∧ m < 0x1113 ∧ 0x1161 ≤ n ∧ n < 0x1176 then
    some (Char.ofNat (0xAC00 + (m - 0x1100) * 588 + (n - 0x1161) * 28))
  else if 0xAC00 ≤ m ∧ m ≤ 0xD7A3 ∧ (m - 0xAC00) % 28 = 0 ∧ 0x11A8 ≤ n ∧ n < 0x11C3 then
    some (Char.ofNat (m + (n - 0x11A7)))
  else none

/-- The character composed of two. -/
def composePair? (a b : Char) : Option Char :=
  (composeHangul? a b).or
    ((composites.find? fun entry => entry.values == [a.toNat, b.toNat]).map fun entry =>
      Char.ofNat entry.first)

/-- A text that is being composed. -/
structure Composing where
  /-- What is complete, the last character first. -/
  done : List Char := []
  /-- The letter with which marks are composed. -/
  letter : Option Char := none
  /-- The marks behind it that were not, the last one first. -/
  marks : List Char := []

namespace Composing

/-- The characters so far, the last one first. -/
def flush (s : Composing) : List Char := s.marks ++ s.letter.toList ++ s.done

/-- Takes one more character. -/
def push (s : Composing) (c : Char) : Composing :=
  let kind := combiningClass c
  let free := s.marks.head?.all fun mark => combiningClass mark < kind
  match s.letter.bind fun letter => if free then composePair? letter c else none with
  | some composed => { s with letter := some composed }
  | none =>
    if kind = 0 then { done := s.flush, letter := some c } else { s with marks := c :: s.marks }

end Composing

/-- The composed form of a text. -/
def compose (text : List Char) : List Char :=
  let parts := orderMarks (text.flatMap (decomposeChar 4))
  (parts.foldl Composing.push {}).flush.reverse

end TypedClient.Text
