import TypedClient.Text.Utf8

/-!
# Outcomes of programs

What a program leaves behind when it has read its input and ended.
-/

namespace TypedClient.Filter

/-- What a program leaves behind. -/
structure Outcome where
  /-- What it has written. -/
  output : List UInt8 := []
  /-- What it has written about its troubles. -/
  errors : List UInt8 := []
  /-- The number it has ended with; zero says that all went well. -/
  status : Nat := 0
  /-- The input that it has not read. -/
  unread : List UInt8 := []

/-- What programs are given besides their input: the arguments, without the program's name. -/
abbrev Tool := List (List Char) → List UInt8 → Outcome

/-- The outcome of a program that ends with a complaint. -/
def Outcome.complaint (lines : List String) (status : Nat) (unread : List UInt8) : Outcome where
  errors := lines.flatMap fun line => Text.Utf8.encode (line.toList ++ ['\n'])
  status
  unread

end TypedClient.Filter
