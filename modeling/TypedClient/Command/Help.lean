import TypedClient.Command.Options

/-!
# Help

What the command says about itself.
-/

namespace TypedClient.Command

/-- The name and the version of the program. -/
def versionText : String := "clientgen-cli 0.1.0\n"

/-- How a variable of the environment is shown. -/
def variableText (environment : String → Option String) (name : String) : String :=
  "[env: " ++ name ++ "=" ++ (environment name).getD "" ++ "]"

/-- The options as they are written, and what is said about each. -/
def optionTexts (environment : String → Option String) : List (String × String) := [
  ("-i, " ++ Setting.input.display,
    "OpenAPI document: a file path or an http(s):// URL " ++
      variableText environment inputVariable),
  ("-o, " ++ Setting.output.display,
    "Output path for the generated module " ++ variableText environment outputVariable ++
      " [default: " ++ defaultOutput ++ "]"),
  ("    " ++ Switch.strict.display,
    "Fail instead of falling back to `any` for unsupported schema shapes"),
  ("    " ++ Setting.formatter.display,
    "External formatter program reading stdin and writing stdout (e.g. `npx`)"),
  ("    " ++ Setting.formatterArg.display,
    "Argument for the formatter program; repeat for each one"),
  ("-v, " ++ Switch.verbose.display,
    "Increase log verbosity (-v info, -vv debug, -vvv trace). `RUST_LOG` takes precedence"),
  ("-h, " ++ Switch.help.display, "Print help"),
  ("-V, " ++ Switch.version.display, "Print version")]

/-- The lines about options, with what is said about them in one column. -/
def optionLines (texts : List (String × String)) : List String :=
  let width := (texts.map fun t => t.1.length).foldl max 0
  texts.map fun t =>
    "  " ++ t.1 ++ String.ofList (List.replicate (width - t.1.length) ' ') ++ "  " ++ t.2

/-- How the command is used. -/
def usageLine : String := "Usage: clientgen [OPTIONS]"

/-- Where more can be learned. -/
def helpHint : String := "For more information, try '--help'."

/-- The text of the help. -/
def helpText (environment : String → Option String) : String :=
  String.join <|
    (["Generate a typed, validated API client from an OpenAPI document", "", usageLine, "",
      "Options:"] ++ optionLines (optionTexts environment)).map (· ++ "\n")

end TypedClient.Command
