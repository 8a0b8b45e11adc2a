import TypedClient.Filter

/-!
# Options of the command line

What can be asked for on the command line, and what is asked for by a list of arguments.  An option
may come as `--name value`, `--name=value`, `-n value`, `-nvalue` or `-n=value`, and switches of one
letter may be joined.  A value that comes as an argument of its own is taken into account when the
next option is met or the arguments end, so that what is wrong with it is reported then.
-/

namespace TypedClient.Command

/-- An option that takes a value. -/
inductive Setting where
  | input
  | output
  | formatter
  | formatterArg
deriving DecidableEq

/-- How an option is shown. -/
def Setting.display : Setting → String
  | .input => "--input <FILE_OR_URL>"
  | .output => "--output <OUTPUT>"
  | .formatter => "--formatter <PROGRAM>"
  | .formatterArg => "--formatter-arg <ARG>"

/-- An option without a value. -/
inductive Switch where
  | strict
  | verbose
  | help
  | version
deriving DecidableEq

/-- How a switch is shown. -/
def Switch.display : Switch → String
  | .strict => "--strict"
  | .verbose => "--verbose..."
  | .help => "--help"
  | .version => "--version"

/-- An option of either kind. -/
inductive Flag where
  | setting (setting : Setting)
  | switch (switch : Switch)
deriving DecidableEq

/-- The option with a name. -/
def Flag.ofName? : String → Option Flag
  | "input" => some (.setting .input)
  | "output" => some (.setting .output)
  | "formatter" => some (.setting .formatter)
  | "formatter-arg" => some (.setting .formatterArg)
  | "strict" => some (.switch .strict)
  | "verbose" => some (.switch .verbose)
  | "help" => some (.switch .help)
  | "version" => some (.switch .version)
  | _ => none

/-- The option with a letter. -/
def Flag.ofLetter? : Char → Option Flag
  | 'i' => some (.setting .input)
  | 'o' => some (.setting .output)
  | 'v' => some (.switch .verbose)
  | 'h' => some (.switch .help)
  | 'V' => some (.switch .version)
  | _ => none

/-- What is wrong with the arguments. -/
inductive Misuse where
  /-- There is no such option, or no place for the argument. -/
  | unexpectedArgument (text : String)
  /-- A switch is given a value. -/
  | unexpectedValue (value : String) (switch : Switch)
  /-- An option is given no value, or an empty one that it does not take. -/
  | missingValue (setting : Setting)
  /-- An option that can be given once is given again. -/
  | repeated (display : String)
  /-- There are arguments for a formatter, but no formatter. -/
  | missingFormatter
deriving DecidableEq

/-- The lines that report what is wrong with the arguments. -/
def Misuse.lines : Misuse → List String
  | .unexpectedArgument text => ["unexpected argument '" ++ text ++ "' found"]
  | .unexpectedValue value switch =>
    ["unexpected value '" ++ value ++ "' for '" ++ switch.display ++
      "' found; no more were expected"]
  | .missingValue setting =>
    ["a value is required for '" ++ setting.display ++ "' but none was supplied"]
  | .repeated display => ["the argument '" ++ display ++ "' cannot be used multiple times"]
  | .missingFormatter =>
    ["the following required arguments were not provided:", "  " ++ Setting.formatter.display]

/-- Why reading the arguments ends before their end. -/
inductive Stop where
  | help
  | version
  | misuse (misuse : Misuse)
deriving DecidableEq

/-- What is asked for on the command line. -/
structure Options where
  input : Option String
  output : String
  strict : Bool
  filter : Option Filter
  verbosity : Nat
deriving DecidableEq

/-! ## Reading arguments -/

/-- What the arguments read so far ask for. -/
structure Draft where
  input : Option String := none
  output : Option String := none
  formatter : Option String := none
  formatterArgs : List String := []
  strict : Bool := false
  verbosity : Nat := 0
  /-- The option named last, and its value if that has come. -/
  pending : Option (Setting × Option String) := none

namespace Draft

/-- Whether an option that can be given once has been given. -/
def has (d : Draft) : Setting → Bool
  | .input => d.input.isSome
  | .output => d.output.isSome
  | .formatter => d.formatter.isSome
  | .formatterArg => false

/-- Takes the value of an option into account.  Only the path of the output must not be empty. -/
def accept (d : Draft) (setting : Setting) (value : String) : Except Misuse Draft :=
  if d.has setting then .error (.repeated setting.display)
  else
    match setting with
    | .input => .ok { d with input := some value }
    | .output =>
      if value.isEmpty then .error (.missingValue .output)
      else .ok { d with output := some value }
    | .formatter => .ok { d with formatter := some value }
    | .formatterArg => .ok { d with formatterArgs := d.formatterArgs ++ [value] }

/-- Takes the option named last into account. -/
def settle (d : Draft) : Except Misuse Draft :=
  match d.pending with
  | none => .ok d
  | some (setting, none) => .error (.missingValue setting)
  | some (setting, some value) => { d with pending := none }.accept setting value

/-- The option that waits for its value. -/
def waiting? (d : Draft) : Option Setting :=
  match d.pending with
  | some (setting, none) => some setting
  | _ => none

/-- Settles what has come before, and stops at misuse. -/
def settled (d : Draft) : Except Stop Draft := d.settle.mapError .misuse

/-- Takes a switch into account. -/
def turn (d : Draft) (switch : Switch) : Except Stop Draft :=
  match d.settled with
  | .error e => .error e
  | .ok d =>
    match switch with
    | .strict =>
      if d.strict then .error (.misuse (.repeated switch.display)) else .ok { d with strict := true }
    | .verbose => .ok { d with verbosity := d.verbosity + 1 }
    | .help => .error .help
    | .version => .error .version

/-- Takes an option with a value that is attached to it, or that may come next. -/
def name (d : Draft) (setting : Setting) (attached? : Option String) : Except Stop Draft :=
  match d.settled with
  | .error e => .error e
  | .ok d =>
    match attached? with
    | some value => (d.accept setting value).mapError .misuse
    | none => .ok { d with pending := some (setting, none) }

/-- Takes what stands behind two hyphens. -/
def takeName (d : Draft) (text : List Char) : Except Stop Draft :=
  let word := text.takeWhile (· != '=')
  let attached? := match text.drop word.length with
    | [] => none
    | _ :: value => some (String.ofList value)
  match Flag.ofName? (String.ofList word), attached? with
  | none, _ => .error (.misuse (.unexpectedArgument (String.ofList ('-' :: '-' :: word))))
  | some (.setting setting), _ => d.name setting attached?
  | some (.switch switch), none => d.turn switch
  | some (.switch switch), some value => .error (.misuse (.unexpectedValue value switch))

/-- The value that is attached to the letter of an option. -/
def attachedTo? : List Char → Option String
  | [] => none
  | '=' :: value => some (String.ofList value)
  | value => some (String.ofList value)

/-- Takes the letters behind one hyphen. -/
def takeLetters (d : Draft) : List Char → Except Stop Draft
  | [] => .ok d
  | c :: rest =>
    match Flag.ofLetter? c with
    | none => .error (.misuse (.unexpectedArgument (String.ofList ['-', c])))
    | some (.switch switch) =>
      match d.turn switch with
      | .error e => .error e
      | .ok d => d.takeLetters rest
    | some (.setting setting) => d.name setting (attachedTo? rest)

/-- Takes an argument that is no option: the value that is waited for. -/
def takeValue (d : Draft) (argument : String) : Except Stop Draft :=
  match d.waiting? with
  | some setting => .ok { d with pending := some (setting, some argument) }
  | none => .error (.misuse (.unexpectedArgument argument))

/-- Takes an argument. -/
def takeArgument (d : Draft) (argument : String) : Except Stop Draft :=
  match argument.toList with
  | '-' :: '-' :: text => d.takeName text
  | '-' :: c :: letters => d.takeLetters (c :: letters)
  | _ => d.takeValue argument

/-- Takes arguments one after the other.  An argument for the formatter may look like an option;
otherwise nothing is expected behind two hyphens that stand alone. -/
def takeAll (d : Draft) : List String → Except Stop Draft
  | [] => d.settled
  | argument :: rest =>
    if d.waiting? = some .formatterArg then
      takeAll { d with pending := some (.formatterArg, some argument) } rest
    else if argument = "--" then
      match rest with
      | [] => d.settled
      | next :: _ => .error (.misuse (.unexpectedArgument next))
    else
      match d.takeArgument argument with
      | .error e => .error e
      | .ok d => d.takeAll rest

/-- Takes the value of an option from a variable, if the arguments give none. -/
def fromVariable (d : Draft) (setting : Setting) (value? : Option String) : Except Misuse Draft :=
  match value? with
  | none => .ok d
  | some value => if d.has setting then .ok d else d.accept setting value

end Draft

/-- The variable that stands in for the input. -/
def inputVariable : String := "CLIENTGEN_INPUT"

/-- The variable that stands in for the path of the output. -/
def outputVariable : String := "CLIENTGEN_OUTPUT"

/-- Where the client is written if nothing else is asked for. -/
def defaultOutput : String := "src/generated/api-client.ts"

/-- What a draft asks for. -/
def Options.ofDraft (d : Draft) : Except Misuse Options :=
  let options (filter : Option Filter) : Options :=
    ⟨d.input, d.output.getD defaultOutput, d.strict, filter, d.verbosity⟩
  match d.formatter, d.formatterArgs with
  | some program, arguments => .ok (options (some ⟨program, arguments⟩))
  | none, [] => .ok (options none)
  | none, _ :: _ => .error .missingFormatter

/-- What arguments ask for, with the variables of the environment. -/
def Options.read (environment : String → Option String) (arguments : List String) :
    Except Stop Options :=
  match Draft.takeAll {} arguments with
  | .error e => .error e
  | .ok d =>
    (((d.fromVariable .input (environment inputVariable)).bind fun d =>
      d.fromVariable .output (environment outputVariable)).bind Options.ofDraft).mapError .misuse

end TypedClient.Command
