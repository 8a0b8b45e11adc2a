import TypedClient.Fault
import TypedClient.Url.Absolute

/-!
# Configuration of a client

Where a client finds its server, and how it proves who it is.
-/

namespace TypedClient

/-- The configuration of a client. -/
structure Config where
  /-- The token that is sent with each request. -/
  accessToken : Option String := none
  /-- The address that the paths are appended to. -/
  apiUrl : Option String := none

/-- What is wrong with the address in a configuration. -/
inductive ConfigFlaw where
  /-- There is none. -/
  | missing
  /-- It is no absolute address. -/
  | malformed (text : String) (flaw : Url.Flaw)
  /-- Its scheme is neither `http` nor `https`. -/
  | scheme (text : String)
deriving DecidableEq

/-- The sentence that reports what is wrong with an address. -/
def ConfigFlaw.message : ConfigFlaw → String
  | .missing => "API base URL is not configured"
  | .malformed text flaw => "Invalid API base URL '" ++ text ++ "': " ++ flaw.message
  | .scheme text => "API base URL must use http or https: '" ++ text ++ "'"

namespace Config

/-- A text without slashes at its end. -/
def dropSlashes (text : List Char) : List Char := (text.reverse.dropWhile (· == '/')).reverse

/-- The address that the paths are appended to, without blanks around it and without slashes at its
end. -/
def baseUrl (config : Config) : Except ConfigFlaw String :=
  match Text.trim ((config.apiUrl.map String.toList).getD []) with
  | [] => .error .missing
  | c :: rest =>
    let text := String.ofList (c :: rest)
    match Url.scheme (c :: rest) with
    | .error flaw => .error (.malformed text flaw)
    | .ok scheme =>
      if scheme = "http" ∨ scheme = "https" then .ok (String.ofList (dropSlashes (c :: rest)))
      else .error (.scheme text)

/-- What is sent as proof of identity: the token, if it is not blank. -/
def bearer? (config : Config) : Option String :=
  match Text.trim ((config.accessToken.map String.toList).getD []) with
  | [] => none
  | c :: rest => some ("Bearer " ++ String.ofList (c :: rest))

end Config

end TypedClient
