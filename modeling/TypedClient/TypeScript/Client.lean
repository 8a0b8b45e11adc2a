import TypedClient.Layout
import TypedClient.Route.Tree
import TypedClient.TypeScript.Expression

/-!
# The call functions

The tree of routes is written as an object whose members are the call functions and, one level
deeper, the further routes.
-/

namespace TypedClient.TypeScript

open Layout (Step block)

/-- A string literal. -/
def quote (text : String) : String := Json.quoteString text

/-- The key of a member, as text. -/
def keyText (key : String) : String := String.ofList (objectKey key)

/-- The comment before a call function. -/
def endpointComment (e : Endpoint) : String :=
  let call := "// " ++ e.httpMethod ++ " " ++ e.path
  match e.summary with
  | some summary => call ++ ": " ++ String.ofList (singleLine summary)
  | none => call

/-- A parameter whose type is what a schema accepts. -/
def inputParameter (ids : Identifiers) (name schema : String) : String :=
  name ++ ": z.input<typeof " ++ ids.schemaName schema ++ ">"

/-- The first line of a call function. -/
def signature (ids : Identifiers) (key : String) (e : Endpoint) : String :=
  let query := e.query.map (inputParameter ids "query")
  let body := e.body.map (inputParameter ids "body")
  let parameters := query.toList ++ body.toList ++ ["init?: RequestInit"]
  keyText key ++ ": async (" ++ Text.joinStrings ", " parameters ++ "): Promise<" ++
    (e.response.map ids.typeName).getD "any" ++ "> => \x7b"

/-- The lines that put the address together and check what was given. -/
def inputSteps (ids : Identifiers) (e : Endpoint) : List Step :=
  let binding := if e.query.isSome then "let" else "const"
  let address := [Step.line (binding ++ " url = requireApiUrl(config) + " ++ quote e.path ++ ";")]
  let query := match e.query with
    | none => []
    | some schema =>
      [.line ("const parsedQuery = " ++ ids.schemaName schema ++ ".parse(query);"),
        .line "const search = toQueryString(parsedQuery);"] ++
        block "if (search) \x7b" [.line "url += \"?\" + search;"] "\x7d"
  let body := match e.body with
    | none => []
    | some schema => [.line ("const parsedBody = " ++ ids.schemaName schema ++ ".parse(body);")]
  address ++ query ++ body

/-- The headers of a request. -/
def headerSteps : List Step :=
  block "headers: \x7b"
    [.line "\"Content-Type\": \"application/json\",",
      .line ("...(config.accessToken ? \x7b Authorization: `Bearer $\x7bconfig.accessToken\x7d` \x7d" ++
        " : \x7b\x7d),")]
    "\x7d,"

/-- The lines that send the request. -/
def requestSteps (e : Endpoint) : List Step :=
  let body := if e.body.isSome then [Step.line "body: JSON.stringify(parsedBody),"] else []
  block "const response = await fetch(url, \x7b"
    ([.line "...init,", .line ("method: " ++ quote e.httpMethod ++ ",")] ++ headerSteps ++ body)
    "\x7d);"

/-- The lines that read and check the answer. -/
def answerSteps (ids : Identifiers) (e : Endpoint) : List Step :=
  let failure := "Request failed: " ++ e.httpMethod ++ " " ++ e.path
  let result := match e.response with
    | some schema => "return " ++ ids.schemaName schema ++ ".parse(data);"
    | none => "return data;"
  [.line "const data = await readJson(response);"] ++
    block "if (response.status < 200 || response.status >= 400) \x7b"
      [.line ("console.error(" ++ quote failure ++
          ", response.status, response.statusText, data);"),
        .line "throw new ApiRequestError(response.status, response.statusText, data);"]
      "\x7d" ++
    [.line result]

/-- A call function. -/
def endpointSteps (ids : Identifiers) (key : String) (e : Endpoint) : List Step :=
  .line (endpointComment e) ::
    block (signature ids key e) (inputSteps ids e ++ requestSteps e ++ answerSteps ids e) "\x7d,"

mutual

/-- The call functions at a node of the tree of routes and below it. -/
def treeSteps (ids : Identifiers) : RouteTree → List Step
  | .node endpoints children =>
    (endpoints.flatMap fun e => endpointSteps ids e.1 e.2) ++ childSteps ids children

/-- The nodes below, each as an object. -/
def childSteps (ids : Identifiers) : List (String × RouteTree) → List Step
  | [] => []
  | (key, tree) :: rest =>
    block (keyText key ++ ": \x7b") (treeSteps ids tree) "\x7d," ++ childSteps ids rest

end

end TypedClient.TypeScript
