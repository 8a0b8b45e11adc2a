import TypedClient.Text.Case
import TypedClient.Text.Quoted.Table

/-!
# Quoted texts

How a text is shown between double quotes in a message, so that every character can be told: the
quote, the backslash and the common control characters by an escape of one letter, and every other
character without a visible form by its number.
-/

namespace TypedClient.Text

/-- The lower-case hexadecimal digits of a number. -/
def lowerHex (n : Nat) : List Char := Nat.toDigits 16 n

/-- A character as it is shown between double quotes. -/
def showChar (c : Char) : List Char :=
  match c with
  | '"' => ['\\', '"']
  | '\\' => ['\\', '\\']
  | '\n' => ['\\', 'n']
  | '\r' => ['\\', 'r']
  | '\t' => ['\\', 't']
  | '\x00' => ['\\', '0']
  | c =>
    if inRanges hiddenRanges c then '\\' :: 'u' :: '\x7b' :: lowerHex c.toNat ++ ['\x7d'] else [c]

/-- A text between double quotes. -/
def quoted (text : String) : String :=
  String.ofList ('"' :: text.toList.flatMap showChar ++ ['"'])

end TypedClient.Text
