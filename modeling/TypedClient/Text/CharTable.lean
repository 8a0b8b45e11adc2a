import TypedClient.Text.Blank

/-!
# Tables of characters

Data on characters, written down as lines of entries.  An entry is the number of a character, or the
numbers of the first and the last of several, `100-12E`, perhaps with the distance between
neighbours, `100-12E/2`; behind a colon stand numbers that say something about them, with points
between, `BC:31.2044.34`.  All numbers are hexadecimal.
-/

namespace TypedClient.Text

/-- An entry of a table. -/
structure CharEntry where
  /-- The first character. -/
  first : Nat
  /-- The last character. -/
  last : Nat
  /-- The distance between neighbours. -/
  step : Nat
  /-- What the table says about them. -/
  values : List Nat
deriving Inhabited

/-- The number that hexadecimal digits spell. -/
def readHex (digits : List Char) : Nat :=
  digits.foldl (fun n c => n * 16 + (if c.isDigit then c.toNat - 48 else c.toNat - 55)) 0

/-- The entry that a text spells. -/
def readCharEntry (text : List Char) : CharEntry :=
  let values := match text.dropWhile (· != ':') with
    | _ :: values => (wordsBetween (· == '.') values).map readHex
    | [] => []
  let range := text.takeWhile (· != ':')
  let step := match range.dropWhile (· != '/') with
    | _ :: step => readHex step
    | [] => 1
  let ends := (wordsBetween (· == '-') (range.takeWhile (· != '/'))).map readHex
  ⟨ends.headD 0, ends.getLastD 0, step, values⟩

/-- The entries that lines spell. -/
def readCharTable (lines : List String) : List CharEntry :=
  lines.flatMap fun line => (wordsBetween (· == ' ') line.toList).map readCharEntry

/-- Whether an entry speaks of a character. -/
def CharEntry.covers (entry : CharEntry) (c : Char) : Bool :=
  let n := c.toNat
  entry.first ≤ n && n ≤ entry.last && (n - entry.first) % entry.step == 0

/-- The entry that speaks of a character. -/
def entryOf? (table : List CharEntry) (c : Char) : Option CharEntry :=
  table.find? fun entry => entry.covers c

/-- Whether some entry speaks of a character. -/
def inTable (table : List CharEntry) (c : Char) : Bool := (entryOf? table c).isSome

/-- The number that a table says about a character; zero where it says nothing. -/
def valueIn (table : List CharEntry) (c : Char) : Nat :=
  ((entryOf? table c).bind fun entry => entry.values.head?).getD 0

end TypedClient.Text
