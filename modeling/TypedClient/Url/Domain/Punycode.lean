/-!
# Punycode

How letters beyond ASCII are spelled with ASCII letters and digits.  Behind the last hyphen stands a
sequence of numbers, each written with digits of base 36 whose weights depend on the numbers before
it; each number says which letter comes next and where it is put in.
-/

namespace TypedClient.Url.Punycode

/-- The value of a digit. -/
def digit? (c : Char) : Option Nat :=
  if c.isUpper then some (c.toNat - 65)
  else if c.isLower then some (c.toNat - 97)
  else if c.isDigit then some (c.toNat - 22)
  else none

/-- The greatest digit that ends a number, at a place `k`. -/
def threshold (k bias : Nat) : Nat := min 26 (max 1 (k - bias))

/-- Divides a number by 35 until it is small, and counts 36 for each time. -/
def adaptLoop (delta k : Nat) : Nat :=
  if 455 < delta then adaptLoop (delta / 35) (k + 36) else k + 36 * delta / (delta + 38)
termination_by delta
decreasing_by exact Nat.div_lt_self (by omega) (by omega)

/-- The weights behind a number, when that made a text of a length. -/
def adapt (delta length : Nat) (first : Bool) : Nat :=
  let delta := if first then delta / 700 else delta / 2
  adaptLoop (delta + delta / length) 0

/-- A text that is being decoded. -/
structure State where
  /-- The text so far. -/
  text : List Char
  /-- The next letter, as a number. -/
  letter : Nat := 0x80
  /-- What the number that is being read has come to. -/
  index : Nat := 0
  /-- What it began with. -/
  start : Nat := 0
  /-- The weights. -/
  bias : Nat := 72
  /-- The weight of the next digit. -/
  weight : Nat := 1
  /-- The place of the next digit. -/
  place : Nat := 36

/-- Puts a character into a text. -/
def insertAt (text : List Char) (index : Nat) (c : Char) : List Char :=
  text.take index ++ c :: text.drop index

/-- Reads one digit. -/
def step? (s : State) (c : Char) : Option State :=
  (digit? c).bind fun d =>
    let index := s.index + d * s.weight
    let t := threshold s.place s.bias
    if t ≤ d then
      some { s with index, weight := s.weight * (36 - t), place := s.place + 36 }
    else
      let length := s.text.length + 1
      let letter := s.letter + index / length
      let index := index % length
      if letter.isValidChar then
        some {
          text := insertAt s.text index (Char.ofNat letter)
          letter
          index := index + 1
          start := index + 1
          bias := adapt (s.index + d * s.weight - s.start) length (s.start == 0) }
      else none

/-- Cuts a text at its last hyphen; without one, the first part is empty. -/
def cut (text : List Char) : List Char × List Char :=
  let deltas := (text.reverse.takeWhile (· != '-')).reverse
  let base := text.take (text.length - deltas.length - 1)
  if base.isEmpty then ([], text) else (base, deltas)

/-- The text that a text in Punycode spells; what stands before the last hyphen is of ASCII. -/
def decode? (text : List Char) : Option (List Char) :=
  let (base, deltas) := cut text
  match deltas.foldlM step? { text := base } with
  | some s =>
    if s.weight = 1 ∧ s.place = 36 ∧ base.all fun c => c.toNat < 0x80 then some s.text else none
  | none => none

end TypedClient.Url.Punycode
