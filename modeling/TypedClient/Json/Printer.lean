import TypedClient.Json.Basic
import TypedClient.Number.Shortest

/-!
# Printing JSON

The compact text of a value: no space between the tokens, and in a string only the quote, the
backslash and the control characters below U+0020 escaped.
-/

namespace TypedClient

/-- A floating-point number is written with the fewest digits that read back, positionally from
`0.00001` up to `10 ^ 16`, and always with a point or an exponent. -/
def Number.decimalNotation : DecimalNotation where
  plainAbove := -5
  plainBelow := 16
  plus := "+"

/-- The text of a number. -/
def Number.render : Number → String
  | .int n => toString n
  | .float x => Number.decimalNotation.renderBinary64 x

namespace Json

/-- The lower-case hexadecimal digit of a value below 16. -/
def lowerHexDigit (n : Nat) : Char := Char.ofNat (if n < 10 then 0x30 + n else 0x61 + (n - 10))

/-- A character as it stands between the quotes of a string. -/
def escapeChar (c : Char) : List Char :=
  if c = '"' then ['\\', '"']
  else if c = '\\' then ['\\', '\\']
  else if c = '\n' then ['\\', 'n']
  else if c = '\r' then ['\\', 'r']
  else if c = '\t' then ['\\', 't']
  else if c.toNat = 8 then ['\\', 'b']
  else if c.toNat = 12 then ['\\', 'f']
  else if c.toNat < 0x20 then
    ['\\', 'u', '0', '0', lowerHexDigit (c.toNat / 16), lowerHexDigit (c.toNat % 16)]
  else [c]

/-- A text between quotes. -/
def quote (text : List Char) : List Char := '"' :: text.flatMap escapeChar ++ ['"']

mutual

/-- The compact text of a value. -/
def print : Json → List Char
  | .null => "null".toList
  | .bool true => "true".toList
  | .bool false => "false".toList
  | .number n => n.render.toList
  | .string s => quote s.toList
  | .array items => '[' :: printItems items ++ [']']
  | .object members => '\x7b' :: printMembers members ++ ['\x7d']

/-- The texts of the items, with commas between them. -/
def printItems : List Json → List Char
  | [] => []
  | [item] => item.print
  | item :: rest => item.print ++ ',' :: printItems rest

/-- The texts of the members, with commas between them. -/
def printMembers : List (String × Json) → List Char
  | [] => []
  | [(key, value)] => quote key.toList ++ ':' :: value.print
  | (key, value) :: rest => quote key.toList ++ ':' :: value.print ++ ',' :: printMembers rest

end

/-- The compact text of a value. -/
def compact (value : Json) : String := String.ofList value.print

/-- A string literal. -/
def quoteString (text : String) : String := String.ofList (quote text.toList)

end Json

end TypedClient
