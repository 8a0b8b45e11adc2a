import TypedClient.Json.Basic

/-!
# Reading JSON

A text is cut into tokens by one pass over its characters, and the tokens are put together to a value
by one pass over them; both passes are folds, and a text that is no JSON value is answered by `none`.

A member that is repeated keeps its first place and takes its last value.  At most 127 arrays and
objects may be nested.  A number without fraction and exponent is an integer if it lies between
`-2 ^ 63` and `2 ^ 64 - 1`; every other one is rounded to binary64 from at most as many digits as a
64-bit word holds, the digits first and then the product with the power of ten
(`Binary64.ofScaled`), and `-0` is a floating-point number because integers have one zero.
-/

namespace TypedClient.Json

/-! ## Numbers -/

/-- The value of a decimal digit. -/
def digit? (c : Char) : Option Nat := if '0' ≤ c ∧ c ≤ '9' then some (c.toNat - 48) else none

/-- Digits read into a word of 64 bits. -/
structure Digits where
  /-- The number that the digits read so far spell. -/
  value : Nat
  /-- How many digits were read into the word. -/
  kept : Nat
  /-- How many digits were left out because the word was full. -/
  dropped : Nat

/-- Reads one digit more; once a digit does not fit, it and all later ones are left out. -/
def Digits.push (digits : Digits) (d : Nat) : Digits :=
  if digits.dropped = 0 ∧ digits.value * 10 + d < Nat.pow 2 64 then
    ⟨digits.value * 10 + d, digits.kept + 1, 0⟩
  else { digits with dropped := digits.dropped + 1 }

/-- Reads digits. -/
def Digits.read (start : Digits) (text : List Char) : Digits :=
  text.foldl (fun digits c => digits.push (c.toNat - 48)) start

/-- The number of an exponent; none where it does not fit into a word of 31 bits. -/
def exponentValue (text : List Char) : Option Nat :=
  text.foldlM (fun n c =>
    let n := n * 10 + (c.toNat - 48)
    if n < Nat.pow 2 31 then some n else none) 0

/-- Whether a text is a digit sequence that is not empty. -/
def isDigits (text : List Char) : Bool := !text.isEmpty && text.all fun c => (digit? c).isSome

/-- The floating-point number of a sign, an integral part, a fraction and an exponent. -/
def floatOf (negative : Bool) (whole fraction : List Char) (exponent : Option (Bool × List Char)) :
    Option Number :=
  let wholeDigits := Digits.read ⟨0, 0, 0⟩ whole
  let allDigits := Digits.read { wholeDigits with kept := 0, dropped := 0 } fraction
  let scale : Int := (wholeDigits.dropped : Int) - (allDigits.kept : Int)
  let value : Option Binary64 :=
    match exponent with
    | none => Binary64.ofScaled allDigits.value scale
    | some (down, power) =>
      match exponentValue power with
      | some n => Binary64.ofScaled allDigits.value (if down then scale - n else scale + n)
      | none => if allDigits.value = 0 ∨ down then some (Binary64.zero false) else none
  value.map fun x => .float (if negative then x.neg else x)

/-- Splits the exponent off a number: its sign and its digits. -/
def splitExponent (text : List Char) : List Char × Option (Bool × List Char) :=
  let isMark := fun c => c == 'e' || c == 'E'
  match text.dropWhile (!isMark ·) with
  | [] => (text, none)
  | _ :: '+' :: digits => (text.takeWhile (!isMark ·), some (false, digits))
  | _ :: '-' :: digits => (text.takeWhile (!isMark ·), some (true, digits))
  | _ :: digits => (text.takeWhile (!isMark ·), some (false, digits))

/-- Reads a number without its sign. -/
def unsignedNumber? (negative : Bool) (text : List Char) : Option Number :=
  let (mantissa, exponent) := splitExponent text
  let whole := mantissa.takeWhile (· != '.')
  let fraction := mantissa.dropWhile (· != '.')
  let wellFormed := isDigits whole && (whole.length == 1 || whole.head? != some '0') &&
    (fraction.isEmpty || isDigits (fraction.drop 1)) &&
    (match exponent with | none => true | some (_, power) => isDigits power)
  if !wellFormed then none
  else if fraction.isEmpty && exponent.isNone then
    let digits := Digits.read ⟨0, 0, 0⟩ whole
    if digits.dropped != 0 then floatOf negative whole [] none
    else if !negative then some (.int digits.value)
    else if digits.value = 0 ∨ Nat.pow 2 63 < digits.value then floatOf true whole [] none
    else some (.int (-digits.value))
  else floatOf negative whole (fraction.drop 1) exponent

/-- Reads a number. -/
def number? : List Char → Option Number
  | '-' :: text => unsignedNumber? true text
  | text => unsignedNumber? false text

/-! ## Tokens -/

/-- A token of a JSON text. -/
inductive Token where
  | beginArray
  | endArray
  | beginObject
  | endObject
  | comma
  | colon
  | literal (value : Json)

/-- Where a lexer stands between two characters. -/
inductive Scan where
  /-- Between tokens. -/
  | between
  /-- In a number or a word; the characters so far, the last one first. -/
  | bare (taken : List Char)
  /-- In a string; its characters so far, the last one first. -/
  | quoted (taken : List Char)
  /-- Behind a backslash in a string. -/
  | escape (taken : List Char)
  /-- In a `\u` escape, with the digits that are missing, the value so far, and a high surrogate
  read just before. -/
  | unicode (taken : List Char) (missing value : Nat) (high : Option Nat)
  /-- Behind an escaped high surrogate, which a second escape has to follow. -/
  | highSurrogate (taken : List Char) (high : Nat)
  /-- Behind an escaped high surrogate and a backslash. -/
  | lowEscape (taken : List Char) (high : Nat)

/-- The value of a hexadecimal digit. -/
def hexDigit? (c : Char) : Option Nat :=
  if '0' ≤ c ∧ c ≤ '9' then some (c.toNat - 48)
  else if 'a' ≤ c ∧ c ≤ 'f' then some (c.toNat - 87)
  else if 'A' ≤ c ∧ c ≤ 'F' then some (c.toNat - 55)
  else none

/-- The token of a number or a word. -/
def bareToken (text : List Char) : Option Token :=
  if text = "null".toList then some (.literal .null)
  else if text = "true".toList then some (.literal (.bool true))
  else if text = "false".toList then some (.literal (.bool false))
  else (number? text).map fun n => .literal (.number n)

/-- The token of a punctuation character. -/
def punctuation? (c : Char) : Option Token :=
  match c with
  | '[' => some .beginArray
  | ']' => some .endArray
  | '\x7b' => some .beginObject
  | '\x7d' => some .endObject
  | ',' => some .comma
  | ':' => some .colon
  | _ => none

/-- The character of a one-letter escape. -/
def simpleEscape? (c : Char) : Option Char :=
  match c with
  | '"' => some '"'
  | '\\' => some '\\'
  | '/' => some '/'
  | 'b' => some '\x08'
  | 'f' => some '\x0c'
  | 'n' => some '\n'
  | 'r' => some '\r'
  | 't' => some '\t'
  | _ => none

/-- Whether a character can stand in a number or a word. -/
def isBare (c : Char) : Bool := c.isAlphanum || c == '-' || c == '+' || c == '.'

/-- Reads one character between tokens. -/
def scanBetween (tokens : List Token) (c : Char) : Option (List Token × Scan) :=
  if c = ' ' ∨ c = '\n' ∨ c = '\r' ∨ c = '\t' then some (tokens, .between)
  else if c = '"' then some (tokens, .quoted [])
  else if isBare c then some (tokens, .bare [c])
  else (punctuation? c).map fun token => (token :: tokens, .between)

/-- What follows the last digit of a `\u` escape. -/
def afterUnicode (taken : List Char) (value : Nat) (high : Option Nat) : Option Scan :=
  match high with
  | some h =>
    if 0xDC00 ≤ value ∧ value ≤ 0xDFFF then
      some (.quoted (Char.ofNat (0x10000 + (h - 0xD800) * 0x400 + (value - 0xDC00)) :: taken))
    else none
  | none =>
    if 0xD800 ≤ value ∧ value ≤ 0xDBFF then some (.highSurrogate taken value)
    else if 0xDC00 ≤ value ∧ value ≤ 0xDFFF then none
    else some (.quoted (Char.ofNat value :: taken))

/-- Reads one character; the tokens found so far stand in reverse. -/
def scanChar (state : List Token × Scan) (c : Char) : Option (List Token × Scan) :=
  let (tokens, scan) := state
  match scan with
  | .between => scanBetween tokens c
  | .bare taken =>
    if isBare c then some (tokens, .bare (c :: taken))
    else (bareToken taken.reverse).bind fun token => scanBetween (token :: tokens) c
  | .quoted taken =>
    if c = '"' then
      some (.literal (.string (String.ofList taken.reverse)) :: tokens, .between)
    else if c = '\\' then some (tokens, .escape taken)
    else if c.toNat < 0x20 then none
    else some (tokens, .quoted (c :: taken))
  | .escape taken =>
    if c = 'u' then some (tokens, .unicode taken 4 0 none)
    else (simpleEscape? c).map fun e => (tokens, .quoted (e :: taken))
  | .unicode taken missing value high =>
    (hexDigit? c).bind fun d =>
      if missing = 1 then (afterUnicode taken (value * 16 + d) high).map fun s => (tokens, s)
      else some (tokens, .unicode taken (missing - 1) (value * 16 + d) high)
  | .highSurrogate taken high => if c = '\\' then some (tokens, .lowEscape taken high) else none
  | .lowEscape taken high => if c = 'u' then some (tokens, .unicode taken 4 0 (some high)) else none

/-- The tokens of a text. -/
def tokens? (text : List Char) : Option (List Token) :=
  match text.foldlM scanChar ([], Scan.between) with
  | some (tokens, .between) => some tokens.reverse
  | some (tokens, .bare taken) => (bareToken taken.reverse).map fun token => (token :: tokens).reverse
  | _ => none

/-! ## Values -/

/-- An array or object that is not closed yet. -/
inductive Frame where
  /-- An array with the items so far, the last one first. -/
  | array (items : List Json)
  /-- An object with the members so far and the name of the one whose value is being read. -/
  | object (members : List (String × Json)) (key : String)

/-- What may come next. -/
inductive Expect where
  /-- A value. -/
  | value
  /-- The first item of an array, or its end. -/
  | firstItem
  /-- The first member of an object, or its end. -/
  | firstKey (members : List (String × Json))
  /-- The name of a member. -/
  | key (members : List (String × Json))
  /-- The colon behind the name of a member. -/
  | colon
  /-- A comma or the end of the innermost container, behind this value. -/
  | separator (value : Json)

/-- Reads one token, with the containers that are open around it. -/
def place (state : List Frame × Expect) (token : Token) : Option (List Frame × Expect) :=
  let (frames, expect) := state
  let openArray := if frames.length < 127 then some (.array [] :: frames, Expect.firstItem) else none
  let openObject := if frames.length < 127 then some (.object [] "" :: frames, Expect.firstKey []) else none
  match expect, token with
  | .value, .literal v | .firstItem, .literal v => some (frames, .separator v)
  | .value, .beginArray | .firstItem, .beginArray => openArray
  | .value, .beginObject | .firstItem, .beginObject => openObject
  | .firstItem, .endArray => some (frames.drop 1, .separator (.array []))
  | .firstKey members, .endObject => some (frames.drop 1, .separator (.object members))
  | .firstKey members, .literal (.string key) | .key members, .literal (.string key) =>
    some (.object members key :: frames.drop 1, .colon)
  | .colon, .colon => some (frames, .value)
  | .separator v, .comma =>
    match frames with
    | .array items :: outer => some (.array (v :: items) :: outer, .value)
    | .object members key :: _ => some (frames, .key (Entries.put members key v))
    | [] => none
  | .separator v, .endArray =>
    match frames with
    | .array items :: outer => some (outer, .separator (.array (v :: items).reverse))
    | _ => none
  | .separator v, .endObject =>
    match frames with
    | .object members key :: outer => some (outer, .separator (.object (Entries.put members key v)))
    | _ => none
  | _, _ => none

/-- The value that a text spells. -/
def parse? (text : String) : Option Json :=
  match (tokens? text.toList).bind fun tokens => tokens.foldlM place ([], Expect.value) with
  | some ([], .separator v) => some v
  | _ => none

end TypedClient.Json
