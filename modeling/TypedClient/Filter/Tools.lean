import TypedClient.Filter.Escape
import TypedClient.Filter.Outcome
import TypedClient.Text.Blank

/-!
# Tools that write

The tools that pass their input on (`cat`) and that write their arguments (`echo`, `printf`).
-/

namespace TypedClient.Filter

open Text.Utf8 (encode)

/-- Ends with a number, and does nothing else. -/
def ending (status : Nat) : Tool := fun _ input => { status, unread := input }

/-! ## Passing on -/

/-- The number of a line, in six columns at least. -/
def lineNumber (n : Nat) : List UInt8 :=
  let digits := (toString n).toList
  encode (List.replicate (6 - digits.length) ' ' ++ digits ++ ['\t'])

/-- Numbers the lines from `n` on. -/
def numberLines (n : Nat) : List (List UInt8) → List UInt8
  | [] => []
  | line :: rest => lineNumber n ++ line ++ numberLines (n + 1) rest

/-- The lines of a byte sequence, each with its end. -/
def linesWithEnd : List UInt8 → List (List UInt8)
  | [] => []
  | b :: rest =>
    if b = 10 then [b] :: linesWithEnd rest
    else
      match linesWithEnd rest with
      | [] => [[b]]
      | line :: lines => (b :: line) :: lines

/-- Passes the input on; `-` stands for the input, and any other name for a file that is not
there.  With `-n` the lines are numbered. -/
def cat : Tool := fun arguments input =>
  let isOption (a : List Char) : Bool := a.head? == some '-' && a.length != 1
  let options := arguments.filter fun a => isOption a && a != ['-', '-']
  let operands := arguments.filter fun a => !isOption a
  let advice := "Try 'cat --help' for more information."
  match options.find? fun a => a != ['-', 'n'] && a != ['-', 'u'] with
  | some ('-' :: '-' :: name) =>
    .complaint ["cat: unrecognized option '--" ++ String.ofList name ++ "'", advice] 1 input
  | some ('-' :: letters) =>
    let letter := (letters.find? fun c => c != 'n' && c != 'u').getD '-'
    .complaint ["cat: invalid option -- '" ++ letter.toString ++ "'", advice] 1 input
  | _ =>
    let missing := operands.filter (· != ['-'])
    let wantsInput := operands.isEmpty || operands.contains ['-']
    let passed := if wantsInput then input else []
    { output := if options.contains ['-', 'n'] then numberLines 1 (linesWithEnd passed) else passed
      errors := missing.flatMap fun name =>
        encode ("cat: ".toList ++ name ++ ": No such file or directory\n".toList)
      status := if missing.isEmpty then 0 else 1
      unread := if wantsInput then [] else input }

/-! ## Writing arguments -/

/-- The bytes of a text, with its escapes read; a backslash before anything else is kept. -/
def unescape (text : List Char) : List UInt8 :=
  match text with
  | [] => []
  | '\\' :: rest =>
    match h : escape? rest with
    | some (b, after) =>
      have : after.length < rest.length := length_of_escape? h
      b :: unescape after
    | none => 92 :: unescape rest
  | c :: rest => encode [c] ++ unescape rest
termination_by text.length

/-- Writes its arguments with a space between them and a line end, which `-n` leaves out.  `read`
says what is made of an argument. -/
def echo (read : List Char → List UInt8) : Tool := fun arguments input =>
  match arguments with
  | ['-', 'n'] :: rest => { output := read (Text.join [' '] rest), unread := input }
  | arguments => { output := read (Text.join [' '] arguments) ++ [10], unread := input }

/-- A part of a format. -/
inductive Directive where
  /-- A byte that is written as it is. -/
  | byte (b : UInt8)
  /-- A place that the next argument fills, in the way that a letter says. -/
  | place (letter : Char)

/-- The parts of a format. -/
def directives (text : List Char) : List Directive :=
  match text with
  | [] => []
  | '%' :: '%' :: rest => .byte 37 :: directives rest
  | '%' :: c :: rest => .place c :: directives rest
  | '\\' :: rest =>
    match h : escape? rest with
    | some (b, after) =>
      have : after.length < rest.length := length_of_escape? h
      .byte b :: directives after
    | none => .byte 92 :: directives rest
  | c :: rest => (encode [c]).map .byte ++ directives rest
termination_by text.length

/-- Whether a text is a decimal number. -/
def isDecimal (text : List Char) : Bool :=
  match text with
  | '-' :: digits => !digits.isEmpty && digits.all Char.isDigit
  | digits => !digits.isEmpty && digits.all Char.isDigit

/-- What an argument fills a place with. -/
def fillPlace (letter : Char) (argument : List Char) : List UInt8 :=
  match letter with
  | 's' => encode argument
  | 'b' => unescape argument
  | 'c' => encode (argument.take 1)
  | 'd' | 'i' | 'u' => encode (if isDecimal argument then argument else ['0'])
  | _ => []

/-- Writes a format once; places without an argument are filled as by an empty one.  Returns the
arguments that are left too. -/
def fill : List Directive → List (List Char) → List UInt8 × List (List Char)
  | [], arguments => ([], arguments)
  | .byte b :: rest, arguments =>
    let (bytes, left) := fill rest arguments
    (b :: bytes, left)
  | .place letter :: rest, arguments =>
    let (bytes, left) := fill rest arguments.tail
    (fillPlace letter (arguments.headD []) ++ bytes, left)

/-- Writes a format again and again until no arguments are left, at most `turns` times more. -/
def fillAll (format : List Directive) : Nat → List (List Char) → List UInt8
  | 0, arguments => (fill format arguments).1
  | turns + 1, arguments =>
    match fill format arguments with
    | (bytes, []) => bytes
    | (bytes, left) =>
      if left.length < arguments.length then bytes ++ fillAll format turns left else bytes

/-- Writes its arguments in a format. -/
def printf : Tool := fun arguments input =>
  match arguments with
  | [] => .complaint ["printf: usage: printf format [arg ...]"] 2 input
  | format :: rest => { output := fillAll (directives format) rest.length rest, unread := input }

end TypedClient.Filter
