import TypedClient.Json.Printer
import TypedClient.Url.Form

/-!
# Query strings

The members of an object, written as a form: an array gives one pair for each item, `null` gives
none, a text stands for itself, and every other value for its JSON text.
-/

namespace TypedClient.Query

/-- The text of a value in a query; none for `null`. -/
def valueText? : Json → Option String
  | .null => none
  | .string s => some s
  | value => some value.compact

/-- The values that a member stands for. -/
def itemsOf : Json → List Json
  | .array items => items
  | value => [value]

/-- The pairs of a member. -/
def pairsOf (member : String × Json) : List (String × String) :=
  (itemsOf member.2).filterMap fun item => (valueText? item).map fun text => (member.1, text)

/-- The pairs of an object, in the order of its members; any other value has none. -/
def pairs : Json → List (String × String)
  | .object members => members.flatMap pairsOf
  | _ => []

/-- The query string of an object. -/
def render (params : Json) : String := Url.Form.render (pairs params)

end TypedClient.Query
