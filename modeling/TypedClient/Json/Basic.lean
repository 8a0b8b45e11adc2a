import TypedClient.Entries
import TypedClient.Number.Binary64

/-!
# JSON values

Objects keep the order of their members, and a number remembers whether it is an integer: `1` and
`1.0` are two values.
-/

namespace TypedClient

/-- A number of a JSON text. -/
inductive Number where
  /-- An integer between `-2 ^ 63` and `2 ^ 64 - 1`. -/
  | int (n : Int)
  /-- Any other number, rounded to binary64. -/
  | float (x : Binary64)
deriving DecidableEq

/-- A JSON value. -/
inductive Json where
  /-- The value `null`. -/
  | null
  /-- A truth value. -/
  | bool (b : Bool)
  /-- A number. -/
  | number (n : Number)
  /-- A text. -/
  | string (s : String)
  /-- A list of values. -/
  | array (items : List Json)
  /-- Named values, in order. -/
  | object (members : List (String × Json))
deriving Inhabited

namespace Json

/-- The value of a member of an object. -/
def member? : Json → String → Option Json
  | .object members, key => Entries.get? members key
  | _, _ => none

/-- The text, if the value is one. -/
def asString? : Json → Option String
  | .string s => some s
  | _ => none

/-- The truth value, if the value is one. -/
def asBool? : Json → Option Bool
  | .bool b => some b
  | _ => none

/-- The items, if the value is an array. -/
def asArray? : Json → Option (List Json)
  | .array items => some items
  | _ => none

/-- The members, if the value is an object. -/
def asObject? : Json → Option (Entries Json)
  | .object members => some members
  | _ => none

/-- The name of the type of a value. -/
def typeName : Json → String
  | .null => "null"
  | .bool _ => "boolean"
  | .number _ => "number"
  | .string _ => "string"
  | .array _ => "array"
  | .object _ => "object"

end Json

end TypedClient
