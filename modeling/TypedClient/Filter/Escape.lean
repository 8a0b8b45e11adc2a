/-!
# Escapes

The escape sequences that text tools read behind a backslash: a letter for a control character, or
up to three octal digits for a byte.
-/

namespace TypedClient.Filter

/-- Whether a character is an octal digit. -/
def isOctal (c : Char) : Bool := '0' ≤ c && c ≤ '7'

/-- The byte that octal digits spell; what does not fit is cut off. -/
def octalByte (digits : List Char) : UInt8 :=
  UInt8.ofNat (digits.foldl (fun n c => n * 8 + (c.toNat - '0'.toNat)) 0)

/-- The byte that a letter stands for. -/
def letterByte? : Char → Option UInt8
  | 'a' => some 7
  | 'b' => some 8
  | 't' => some 9
  | 'n' => some 10
  | 'v' => some 11
  | 'f' => some 12
  | 'r' => some 13
  | '\\' => some 92
  | _ => none

/-- The byte that is spelled behind a backslash, and what follows it. -/
def escape? (text : List Char) : Option (UInt8 × List Char) :=
  match text with
  | [] => none
  | c :: rest =>
    match letterByte? c with
    | some b => some (b, rest)
    | none =>
      if isOctal c then
        let more := (rest.take 2).takeWhile isOctal
        some (octalByte (c :: more), rest.drop more.length)
      else none

/-- An escape takes at least one character. -/
theorem length_of_escape? {text rest : List Char} {b : UInt8} (h : escape? text = some (b, rest)) :
    rest.length < text.length := by
  cases text with
  | nil => simp [escape?] at h
  | cons c tail =>
    simp only [escape?] at h
    split at h
    · cases h
      simp
    · split at h
      · cases h
        simp only [List.length_drop, List.length_cons]
        omega
      · cases h

end TypedClient.Filter
