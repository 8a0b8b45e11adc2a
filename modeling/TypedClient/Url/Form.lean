import TypedClient.Text.Blank
import TypedClient.Text.Percent
import TypedClient.Text.Utf8

/-!
# Form encoding

Pairs of texts written as `application/x-www-form-urlencoded`.  The letters and digits of ASCII and
the characters `*`, `-`, `.` and `_` stand for themselves, a space is written as a plus sign, and
every other byte of UTF-8 as an escape, so that the separators of the form occur in no text.
-/

namespace TypedClient.Url.Form

/-- Whether a byte stands for itself. -/
def isPlain (b : UInt8) : Bool :=
  let n := b.toNat
  (0x30 ≤ n && n ≤ 0x39) || (0x41 ≤ n && n ≤ 0x5A) || (0x61 ≤ n && n ≤ 0x7A) ||
    n == 0x2A || n == 0x2D || n == 0x2E || n == 0x5F

/-- A byte in a form. -/
def encodeByte (b : UInt8) : List Char :=
  if isPlain b then [Char.ofNat b.toNat]
  else if b = 0x20 then ['+']
  else Text.Percent.escape b

/-- A text in a form. -/
def encode (text : List Char) : List Char := (Text.Utf8.encode text).flatMap encodeByte

/-- A pair in a form. -/
def encodePair (pair : String × String) : List Char :=
  encode pair.1.toList ++ '=' :: encode pair.2.toList

/-- The form of a list of pairs. -/
def render (pairs : List (String × String)) : String :=
  String.ofList (Text.join ['&'] (pairs.map encodePair))

end TypedClient.Url.Form
