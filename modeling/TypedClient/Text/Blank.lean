/-!
# Blank characters

The characters with the Unicode property `White_Space`, and what is done at them: cutting them off
the ends of a text, and cutting a text into the words between them.
-/

namespace TypedClient.Text

/-- The characters with the property `White_Space`. -/
def isBlank (c : Char) : Bool :=
  let n := c.toNat
  (9 ≤ n && n ≤ 13) || n == 0x20 || n == 0x85 || n == 0xA0 || n == 0x1680 ||
    (0x2000 ≤ n && n ≤ 0x200A) || n == 0x2028 || n == 0x2029 || n == 0x202F || n == 0x205F ||
    n == 0x3000

/-- Cuts blanks off the end. -/
def trimEnd (text : List Char) : List Char := (text.reverse.dropWhile isBlank).reverse

/-- Cuts blanks off both ends. -/
def trim (text : List Char) : List Char := trimEnd (text.dropWhile isBlank)

/-- The pieces between the characters of a class, empty pieces included: one piece more than there
are such characters. -/
def splitAtEach (cut : Char → Bool) : List Char → List (List Char)
  | [] => [[]]
  | c :: rest =>
    match splitAtEach cut rest with
    | [] => [[]]
    | piece :: pieces => if cut c then [] :: piece :: pieces else (c :: piece) :: pieces

/-- The pieces between the characters of a class, without the empty ones. -/
def wordsBetween (cut : Char → Bool) (text : List Char) : List (List Char) :=
  (splitAtEach cut text).filter fun piece => !piece.isEmpty

/-- The texts with a separator between neighbours. -/
def join (separator : List Char) : List (List Char) → List Char
  | [] => []
  | [piece] => piece
  | piece :: rest => piece ++ separator ++ join separator rest

/-- Cuts a leading text off, if the text starts with it. -/
def dropLeading? : (lead text : List Char) → Option (List Char)
  | [], text => some text
  | _ :: _, [] => none
  | a :: lead, b :: text => if a = b then dropLeading? lead text else none

/-- Cuts a trailing text off, if the text ends with it. -/
def dropTrailing? (trail text : List Char) : Option (List Char) :=
  (dropLeading? trail.reverse text.reverse).map List.reverse

/-- Lower case for the letters `A` to `Z`; every other character is kept. -/
def asciiLower (text : String) : String := String.ofList (text.toList.map Char.toLower)

/-- The texts joined by a separator. -/
def joinStrings (separator : String) (texts : List String) : String :=
  String.ofList (join separator.toList (texts.map String.toList))

theorem splitAtEach_ne_nil (cut : Char → Bool) (text : List Char) : splitAtEach cut text ≠ [] := by
  cases text with
  | nil => simp [splitAtEach]
  | cons c rest =>
    unfold splitAtEach
    split
    · simp
    · split <;> simp

end TypedClient.Text
