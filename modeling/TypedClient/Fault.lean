import TypedClient.Json.Printer

/-!
# Faults

What the library reports when it cannot go on: what kind of trouble it is, and its text.
-/

namespace TypedClient

/-- The value that a validator refused in a call. -/
inductive Subject where
  | query
  | body
  | response
deriving DecidableEq

/-- The name of a subject. -/
def Subject.name : Subject → String
  | .query => "query"
  | .body => "body"
  | .response => "response"

/-- A reason for not going on. -/
inductive Fault where
  /-- The operating system refused something. -/
  | io (text : String)
  /-- The API description cannot be read or used. -/
  | input (text : String)
  /-- The configuration of a client is missing or wrong. -/
  | config (text : String)
  /-- A schema is not accepted in strict mode. -/
  | compile (text : String)
  /-- A value was refused; `path` leads to the place in it. -/
  | validation (subject : Subject) (path text : String)
  /-- The server answered that the request failed. -/
  | requestFailed (status : Nat) (statusText : String) (body : Json)
  /-- The exchange with the server did not come about. -/
  | transport (text : String)
  /-- Anything else. -/
  | general (text : String)

/-- The sentence that reports a fault. -/
def Fault.message : Fault → String
  | .io text => "IO Error: " ++ text
  | .input text => "Input Error: " ++ text
  | .config text => "Configuration Error: " ++ text
  | .compile text => "Compile Error: " ++ text
  | .validation subject path text =>
    "Validation Error (" ++ subject.name ++ "): " ++ path ++ ": " ++ text
  | .requestFailed status statusText _ =>
    "Request failed with status " ++ toString status ++ " " ++ statusText
  | .transport text => "Transport Error: " ++ text
  | .general text => "General Error: " ++ text

end TypedClient
