import TypedClient.Fault
import TypedClient.Text.Blank

/-!
# Issues

Why a validator refuses a value: a complaint, and the keys and indexes that lead from the value to
the place it is about.
-/

namespace TypedClient

/-- What is wrong at some place of a value. -/
inductive Complaint where
  /-- The value there has another type than the expected one. -/
  | mismatch (expected received : String)
  /-- No member of a union accepts the value there. -/
  | noMember
  /-- The member there is absent and must not be. -/
  | required
  /-- The object there has members that are not declared. -/
  | unrecognized (keys : List String)
  /-- A reference to a name that is not registered was met there. -/
  | unknownReference (name : String)
deriving DecidableEq

/-- The sentence of a complaint. -/
def Complaint.message : Complaint → String
  | .mismatch expected received => "expected " ++ expected ++ ", received " ++ received
  | .noMember => "Invalid input"
  | .required => "Required"
  | .unrecognized keys =>
    "Unrecognized key(s) in object: " ++
      Text.joinStrings ", " (keys.map fun key => "'" ++ key ++ "'")
  | .unknownReference name => "unknown schema reference `" ++ name ++ "`"

/-- A refusal. -/
structure Issue where
  /-- The keys and indexes that lead to the place. -/
  path : List String
  /-- What is wrong there. -/
  complaint : Complaint
deriving DecidableEq

namespace Issue

/-- The path with points between its parts, and `$` for the value itself. -/
def place (issue : Issue) : String :=
  if issue.path.isEmpty then "$" else Text.joinStrings "." issue.path

/-- The sentence of the issue. -/
def message (issue : Issue) : String := issue.complaint.message

/-- The place and the sentence. -/
def display (issue : Issue) : String := issue.place ++ ": " ++ issue.message

/-- The fault that reports the issue. -/
def toFault (subject : Subject) (issue : Issue) : Fault :=
  .validation subject issue.place issue.message

/-- The issue as seen from the value around, of which the refused one is a part. -/
def under (key : String) (issue : Issue) : Issue := { issue with path := key :: issue.path }

end Issue

/-- Why a validator does not yield a value. -/
inductive Refusal where
  /-- The value is refused. -/
  | issue (issue : Issue)
  /-- The references lead in a circle, without ever coming to a part of the value. -/
  | endless
deriving DecidableEq

/-- The refusal as seen from the value around. -/
def Refusal.under (key : String) : Refusal → Refusal
  | .issue i => .issue (i.under key)
  | .endless => .endless

end TypedClient
