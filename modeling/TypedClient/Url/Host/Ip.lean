import TypedClient.Text.Blank

/-!
# Numeric hosts

Which texts are addresses of the internet protocol.  An address of version 4 consists of up to four
numbers, in decimal, octal or hexadecimal notation; the last one fills the bytes that the others
leave.  An address of version 6 consists of eight groups of up to four hexadecimal digits; two colons
stand for one group of zeros or more, and the last two groups may be written as four bytes.
-/

namespace TypedClient.Url.Ip

/-- The value of a hexadecimal digit. -/
def digitValue (c : Char) : Nat :=
  if c.isDigit then c.toNat - 48 else if c.isUpper then c.toNat - 55 else c.toNat - 87

/-- Whether a character is a hexadecimal digit. -/
def isHexDigit (c : Char) : Bool :=
  c.isDigit || ('a' ≤ c && c ≤ 'f') || ('A' ≤ c && c ≤ 'F')

/-- The number that digits of a base spell. -/
def valueOf (base : Nat) (digits : List Char) : Nat :=
  digits.foldl (fun n c => n * base + digitValue c) 0

/-- A number in an address of version 4. -/
def number? (text : List Char) : Option Nat :=
  match text with
  | [] => none
  | '0' :: 'x' :: digits | '0' :: 'X' :: digits =>
    if digits.all isHexDigit then some (valueOf 16 digits) else none
  | '0' :: c :: digits =>
    if (c :: digits).all fun d => '0' ≤ d && d ≤ '7' then some (valueOf 8 (c :: digits)) else none
  | digits => if digits.all Char.isDigit then some (valueOf 10 digits) else none

/-- The parts of a host between the points, without an empty one at the end. -/
def parts (host : List Char) : List (List Char) :=
  let all := Text.splitAtEach (· == '.') host
  if all.length != 1 && all.getLast? == some [] then all.dropLast else all

/-- Whether the last part of a host is a number, which makes the host an address or nothing. -/
def endsInNumber (host : List Char) : Bool :=
  match (parts host).getLast? with
  | some last => !last.isEmpty && (last.all Char.isDigit || (number? last).isSome)
  | none => false

/-- Whether numbers form an address of version 4: all but the last are bytes, and the last one fits
into the bytes that are left. -/
def fitsVersion4 (numbers : List Nat) : Bool :=
  match numbers.reverse with
  | [] => false
  | last :: others =>
    others.length ≤ 3 && others.all (· ≤ 255) && last < Nat.pow 256 (4 - others.length)

/-- Whether a host is an address of version 4. -/
def isVersion4 (host : List Char) : Bool :=
  match (parts host).mapM number? with
  | some numbers => fitsVersion4 numbers
  | none => false

/-! ## Version 6 -/

/-- Whether a text is a byte in decimal notation, without superfluous zeros. -/
def isByte (text : List Char) : Bool :=
  !text.isEmpty && text.all Char.isDigit && (text.length == 1 || text.head? != some '0') &&
    valueOf 10 text ≤ 255

/-- Whether a text is four bytes with points between them. -/
def isFourBytes (text : List Char) : Bool :=
  let bytes := Text.splitAtEach (· == '.') text
  bytes.length == 4 && bytes.all isByte

/-- Whether a text is a group of up to four hexadecimal digits. -/
def isGroup (text : List Char) : Bool :=
  !text.isEmpty && text.length ≤ 4 && text.all isHexDigit

/-- The number of groups that a text consists of; at its `tail` the last two may be written as four
bytes.  No text is no group. -/
def groupCount? (tail : Bool) (text : List Char) : Option Nat :=
  if text.isEmpty then some 0
  else
    let groups := Text.splitAtEach (· == ':') text
    if groups.all isGroup then some groups.length
    else if tail && groups.dropLast.all isGroup && groups.getLast?.any isFourBytes then
      some (groups.length + 1)
    else none

/-- Cuts a text at its first two colons in a row. -/
def cutAtGap? : List Char → Option (List Char × List Char)
  | ':' :: ':' :: rest => some ([], rest)
  | c :: rest => (cutAtGap? rest).map fun (left, right) => (c :: left, right)
  | [] => none

/-- Whether a text is an address of version 6. -/
def isVersion6 (text : List Char) : Bool :=
  match cutAtGap? text with
  | none => groupCount? true text == some 8
  | some (left, right) =>
    match groupCount? false left, groupCount? true right with
    | some m, some n => m + n + 1 ≤ 8
    | _, _ => false

end TypedClient.Url.Ip
