import TypedClient.Text.Blank
import TypedClient.Yaml.Value

/-!
# What scalars mean

A scalar without quotes and without a tag may spell `null`, a truth value, an integer or a
floating-point number; otherwise it is a text.  Some tags demand one of these, whether the scalar is
quoted or not.

Integers may be written in base 2, 8, 10 or 16.  Between the greatest word of 64 bits and the
greatest of 128 bits (and below zero correspondingly) a text spells no value, and beyond that its
decimal digits spell a floating-point number.  Decimal digits that begin with a superfluous zero are
a text.
-/

namespace TypedClient.Yaml

open TypedClient.Text (dropLeading?)

/-- The value of a digit in a base up to 16. -/
def digitValue? (base : Nat) (c : Char) : Option Nat :=
  let value :=
    if '0' ≤ c ∧ c ≤ '9' then c.toNat - 48
    else if 'a' ≤ c ∧ c ≤ 'f' then c.toNat - 87
    else if 'A' ≤ c ∧ c ≤ 'F' then c.toNat - 55
    else 16
  if value < base then some value else none

/-- The number that digits spell in a base. -/
def naturalOf? (base : Nat) (text : List Char) : Option Nat :=
  if text.isEmpty then none
  else text.foldlM (fun n c => (digitValue? base c).map fun d => n * base + d) 0

/-- A text without a sign at its beginning. -/
def dropSign : List Char → List Char
  | '-' :: rest | '+' :: rest => rest
  | text => text

/-- Whether a text is a sequence of decimal digits with a superfluous zero at the beginning. -/
def isZeroPadded (text : List Char) : Bool :=
  match dropSign text with
  | '0' :: c :: rest => (c :: rest).all Char.isDigit
  | _ => false

/-- The natural number that a text without a sign spells. -/
def unsignedInteger? (text : List Char) : Option Nat :=
  match text with
  | '0' :: 'x' :: digits => naturalOf? 16 digits
  | '0' :: 'o' :: digits => naturalOf? 8 digits
  | '0' :: 'b' :: digits => naturalOf? 2 digits
  | _ => if isZeroPadded text then none else naturalOf? 10 text

/-- The integer that a text spells, of any size. -/
def integer? : List Char → Option Int
  | '-' :: text => (unsignedInteger? text).map fun n => -(n : Int)
  | '+' :: text => (unsignedInteger? text).map Int.ofNat
  | text => (unsignedInteger? text).map Int.ofNat

/-- What an attempt to read an integer comes to. -/
inductive IntegerReading where
  /-- An integer that fits into a word of 64 bits. -/
  | int (n : Int)
  /-- An integer that fits only into a word of 128 bits, which is no value. -/
  | tooWide
  /-- Something else. -/
  | none

/-- Whether an integer fits into a word of some bits, with or without a sign. -/
def fitsWord (bits : Nat) (n : Int) : Bool :=
  -Int.ofNat (Nat.pow 2 (bits - 1)) ≤ n && n < Int.ofNat (Nat.pow 2 bits)

/-- Reads an integer. -/
def readInteger (text : List Char) : IntegerReading :=
  match integer? text with
  | some n => if fitsWord 64 n then .int n else if fitsWord 128 n then .tooWide else .none
  | none => .none

/-- The exponent of a floating-point number: nothing, or a mark, perhaps a sign, and digits. -/
def exponent? : List Char → Option Int
  | [] => some 0
  | mark :: text =>
    if mark = 'e' ∨ mark = 'E' then
      match text with
      | '-' :: digits => (naturalOf? 10 digits).map fun n => -(n : Int)
      | '+' :: digits => (naturalOf? 10 digits).map Int.ofNat
      | digits => (naturalOf? 10 digits).map Int.ofNat
    else none

/-- The floating-point number that a text without a plus sign spells; none where it is too great. -/
def decimal? (text : List Char) : Option Binary64 :=
  let (negative, text) := match text with
    | '-' :: rest => (true, rest)
    | rest => (false, rest)
  let whole := text.takeWhile Char.isDigit
  let rest := text.dropWhile Char.isDigit
  let (fraction, rest) := match rest with
    | '.' :: rest => (rest.takeWhile Char.isDigit, rest.dropWhile Char.isDigit)
    | rest => ([], rest)
  match naturalOf? 10 (whole ++ fraction), exponent? rest with
  | some digits, some e => Binary64.ofDecimal negative digits (e - fraction.length)
  | _, _ => none

/-- The number of floating point that a text spells, if any. -/
def float? (text : List Char) : Option Value :=
  let unsigned := (dropLeading? ['+'] text).getD text
  if [".inf", ".Inf", ".INF"].contains (String.ofList unsigned) then some (.infinity false)
  else if ["-.inf", "-.Inf", "-.INF"].contains (String.ofList text) then some (.infinity true)
  else if [".nan", ".NaN", ".NAN"].contains (String.ofList text) then some .notANumber
  else if text.head? = some '+' ∧ unsigned.head? = some '-' then none
  else (decimal? unsigned).map fun x => .number (.float x)

/-- The truth value that a text spells, if any. -/
def bool? (text : String) : Option Bool :=
  if ["true", "True", "TRUE"].contains text then some true
  else if ["false", "False", "FALSE"].contains text then some false
  else none

/-- Whether a text spells `null`. -/
def isNull (text : String) : Bool := ["null", "Null", "NULL", "~"].contains text

/-- The value of a scalar without quotes and without a tag. -/
def plainValue? (text : String) : Option Value :=
  if text.isEmpty || isNull text then some .null
  else
    match bool? text, readInteger text.toList with
    | some b, _ => some (.bool b)
    | none, .int n => some (.number (.int n))
    | none, .tooWide => none
    | none, .none =>
      if isZeroPadded text.toList then some (.string text)
      else some ((float? text.toList).getD (.string text))

/-- The value of a scalar with a tag that does not begin with an exclamation mark. -/
def taggedValue? (tag text : String) : Option Value :=
  match tag with
  | "tag:yaml.org,2002:bool" => (bool? text).map .bool
  | "tag:yaml.org,2002:int" =>
    match readInteger text.toList with
    | .int n => some (.number (.int n))
    | _ => none
  | "tag:yaml.org,2002:float" => float? text.toList
  | "tag:yaml.org,2002:null" => if isNull text then some .null else none
  | _ => some (.string text)

/-- The name in a tag that begins with an exclamation mark. -/
def localTag? (tag : Option String) : Option String :=
  tag.bind fun t => (dropLeading? ['!'] t.toList).map String.ofList

/-- The value of a scalar.  A tag with an exclamation mark says nothing about the meaning of its
text. -/
def scalarValue? (tag : Option String) (text : String) (plain : Bool) : Option Value :=
  match tag, localTag? tag with
  | some t, none => taggedValue? t text
  | _, _ => if plain then plainValue? text else some (.string text)

end TypedClient.Yaml
