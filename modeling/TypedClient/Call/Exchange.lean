import TypedClient.Blueprint
import TypedClient.Call.Config
import TypedClient.Call.Query
import TypedClient.Json.Reader
import TypedClient.Validator.Parse

/-!
# Calls

`Call.run` carries out a call function without any text of it: it checks the configuration, the query
and the body, in this order, sends one request, and checks the answer.  How a request is sent is left
to the caller.  The `Exchange` records every request that was sent.
-/

namespace TypedClient

/-- A request. -/
structure Request where
  /-- The method, in upper case. -/
  method : String
  /-- The address, with the query. -/
  url : String
  /-- The headers, in order. -/
  headers : List (String × String)
  /-- The body. -/
  body : Option String
deriving DecidableEq

/-- The value of the first header with a name, in any letter case. -/
def Request.header? (request : Request) (name : String) : Option String :=
  (request.headers.find? fun h => Text.asciiLower h.1 == Text.asciiLower name).map Prod.snd

/-- An answer. -/
structure Reply where
  /-- The status code. -/
  status : Nat
  /-- The phrase that goes with it. -/
  statusText : String
  /-- The text of the body. -/
  body : String

/-- Whether an answer reports success. -/
def Reply.isSuccess (reply : Reply) : Bool := 200 ≤ reply.status && reply.status < 400

/-- What a call is given. -/
structure CallInput where
  /-- The query. -/
  query : Option Json := none
  /-- The body. -/
  body : Option Json := none

/-- Why a call does not yield a value. -/
inductive CallFailure where
  /-- No endpoint has the route and the method. -/
  | noEndpoint (method : String) (route : List String)
  /-- The address of the server is missing or wrong. -/
  | config (flaw : ConfigFlaw)
  /-- A schema has no validator. -/
  | unknownSchema (name : String)
  /-- A value is refused. -/
  | refused (subject : Subject) (issue : Issue)
  /-- The validator of a value refers to itself without end. -/
  | endless (subject : Subject)
  /-- The request could not be sent, or no answer came. -/
  | notSent (fault : Fault)
  /-- The body of a successful answer is no JSON. -/
  | notJson
  /-- The server reports failure. -/
  | failed (status : Nat) (statusText : String) (body : Json)

/-- The fault that reports why a call does not yield a value. -/
def CallFailure.toFault : CallFailure → Fault
  | .noEndpoint method route =>
    .general ("No endpoint " ++ Text.upper method ++ " at " ++ Text.joinStrings "." route)
  | .config flaw => .config flaw.message
  | .unknownSchema name => .general ("Unknown schema `" ++ name ++ "`")
  | .refused subject issue => issue.toFault subject
  | .endless subject => .general ("endless references in the schema of the " ++ subject.name)
  | .notSent fault => fault
  | .notJson => .validation .response "$" "invalid JSON"
  | .failed status statusText body => .requestFailed status statusText body

/-- What has come of a call. -/
structure Exchange where
  /-- The requests that were sent, in order. -/
  sent : List Request
  /-- The value, or why there is none. -/
  result : Except CallFailure Json

namespace Call

/-- Applies the validator of a schema to a value. -/
def check (registry : Registry) (subject : Subject) (name : String) (value : Json) :
    Except CallFailure Json :=
  match Entries.get? registry name with
  | none => .error (.unknownSchema name)
  | some v =>
    match v.parse registry value with
    | .ok parsed => .ok parsed
    | .error (.issue issue) => .error (.refused subject issue)
    | .error .endless => .error (.endless subject)

/-- Applies the validator of a schema, if there is one, to an input; without an input, to `null`. -/
def checkInput (registry : Registry) (subject : Subject) (name : Option String)
    (value : Option Json) : Except CallFailure (Option Json) :=
  match name with
  | none => .ok none
  | some name => (check registry subject name (value.getD .null)).map some

/-- What is appended to the address for a query. -/
def querySuffix (query : Option Json) : String :=
  match query.map Query.render with
  | some text => if text.isEmpty then "" else "?" ++ text
  | none => ""

/-- The headers of a request. -/
def headers (config : Config) : List (String × String) :=
  ("Content-Type", "application/json") ::
    (config.bearer?.map fun bearer => ("Authorization", bearer)).toList

/-- The endpoint of a route and a method. -/
def locate (blueprint : Blueprint) (route : List String) (method : String) :
    Except CallFailure Endpoint :=
  match blueprint.tree.endpoint? route method with
  | some endpoint => .ok endpoint
  | none => .error (.noEndpoint method route)

/-- The request of an endpoint for an input. -/
def prepare (registry : Registry) (config : Config) (endpoint : Endpoint) (input : CallInput) :
    Except CallFailure Request := do
  let base ← config.baseUrl.mapError .config
  let query ← checkInput registry .query endpoint.query input.query
  let body ← checkInput registry .body endpoint.body input.body
  return {
    method := endpoint.httpMethod
    url := base ++ endpoint.path ++ querySuffix query
    headers := headers config
    body := body.map Json.compact }

/-- The value of the body of an answer.  A blank body is `null`, and the body of a failed request
that is no JSON is a text. -/
def readBody (reply : Reply) : Except CallFailure Json :=
  if reply.body.toList.all Text.isBlank then .ok .null
  else
    match Json.parse? reply.body with
    | some value => .ok value
    | none => if reply.isSuccess then .error .notJson else .ok (.string reply.body)

/-- The value of a call whose answer has come. -/
def finish (registry : Registry) (endpoint : Endpoint) (reply : Reply) : Except CallFailure Json := do
  let data ← readBody reply
  if !reply.isSuccess then .error (.failed reply.status reply.statusText data)
  else
    match endpoint.response with
    | some name => check registry .response name data
    | none => .ok data

/-- Carries out the call function at a route for a method. -/
def run (blueprint : Blueprint) (config : Config) (send : Request → Except Fault Reply)
    (route : List String) (method : String) (input : CallInput) : Exchange :=
  let registry := blueprint.registry
  match locate blueprint route method with
  | .error failure => ⟨[], .error failure⟩
  | .ok endpoint =>
    match prepare registry config endpoint input with
    | .error failure => ⟨[], .error failure⟩
    | .ok request =>
      ⟨[request],
        match send request with
        | .error fault => .error (.notSent fault)
        | .ok reply => finish registry endpoint reply⟩

end Call

end TypedClient
