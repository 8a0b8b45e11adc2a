import TypedClient.Json.Printer
import TypedClient.Yaml.Event
import TypedClient.Yaml.Token.Lexer
import TypedClient.Yaml.Value.OfEvents

/-!
# JSON values from YAML

The JSON value that a YAML value stands for.  Scalar keys become texts, pairs with any other key are
left out, and keys that become equal share the first place and the last value.  Tags are dropped,
and a number that is not finite becomes `null`.
-/

namespace TypedClient.Yaml

/-- A floating-point number in a key is written with the fewest digits that read back, positionally
from `0.00001` up to `10 ^ 16`. -/
def keyNotation : DecimalNotation where
  plainAbove := -5
  plainBelow := 16
  plus := ""

namespace Value

/-- The text of a key; none if the key is no scalar, or bears a tag. -/
def keyText? : Value → Option String
  | .string s => some s
  | .null => some "null"
  | .bool b => some (if b then "true" else "false")
  | .number (.int n) => some (toString n)
  | .number (.float x) => some (keyNotation.renderBinary64 x)
  | .infinity negative => some (if negative then "-.inf" else ".inf")
  | .notANumber => some ".nan"
  | .sequence _ | .mapping _ | .tagged _ _ => none

mutual

/-- The JSON value of a YAML value. -/
def toJson : Value → Json
  | .null => .null
  | .bool b => .bool b
  | .number n => .number n
  | .infinity _ => .null
  | .notANumber => .null
  | .string s => .string s
  | .sequence items => .array (itemsToJson items)
  | .mapping pairs => .object (Entries.ofList (pairsToJson pairs))
  | .tagged _ value => value.toJson

/-- The JSON values of a list of values. -/
def itemsToJson : List Value → List Json
  | [] => []
  | v :: rest => v.toJson :: itemsToJson rest

/-- The members of the pairs of a mapping. -/
def pairsToJson : List (Value × Value) → List (String × Json)
  | [] => []
  | (k, v) :: rest =>
    match k.keyText? with
    | some key => (key, v.toJson) :: pairsToJson rest
    | none => pairsToJson rest

end

end Value

/-- The JSON value of a YAML text; none if the text is not well formed. -/
def readJson? (text : String) : Option Json :=
  (tokens? text.toList).bind fun tokens =>
    (Event.ofTokens? tokens).bind fun events => (Value.ofEvents? events).map Value.toJson

end TypedClient.Yaml
