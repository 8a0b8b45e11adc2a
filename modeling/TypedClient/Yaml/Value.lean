import TypedClient.Json.Basic
import TypedClient.Number.Shortest

/-!
# YAML values

The values that a YAML text can spell.  They are more than the JSON values: a key of a mapping is any
value, numbers may be infinite or none at all, and a value may bear a tag.
-/

namespace TypedClient.Yaml

/-- A YAML value. -/
inductive Value where
  | null
  | bool (b : Bool)
  | number (n : Number)
  | infinity (negative : Bool)
  | notANumber
  | string (s : String)
  | sequence (items : List Value)
  | mapping (pairs : List (Value × Value))
  /-- A value with a tag that begins with an exclamation mark. -/
  | tagged (name : String) (value : Value)

/-- Whether two numbers are equal; an integer never equals a floating-point number, and the two
zeros are equal. -/
def sameNumber : Number → Number → Bool
  | .int m, .int n => m == n
  | .float x, .float y => x == y || (x.isZero && y.isZero)
  | _, _ => false

namespace Value

mutual

/-- Whether two values are equal; the order of the pairs of a mapping does not count. -/
def same : Value → Value → Bool
  | .null, .null => true
  | .bool a, .bool b => a == b
  | .number m, .number n => sameNumber m n
  | .infinity a, .infinity b => a == b
  | .notANumber, .notANumber => true
  | .string s, .string t => s == t
  | .sequence xs, .sequence ys => sameItems xs ys
  | .mapping xs, .mapping ys => xs.length == ys.length && pairsIn xs ys
  | .tagged n v, .tagged m w => n == m && same v w
  | _, _ => false

/-- Whether two lists hold equal values. -/
def sameItems : List Value → List Value → Bool
  | [], [] => true
  | v :: xs, w :: ys => same v w && sameItems xs ys
  | _, _ => false

/-- Whether all pairs of the first list are in the second one. -/
def pairsIn : List (Value × Value) → List (Value × Value) → Bool
  | [], _ => true
  | (k, v) :: xs, ys => (ys.any fun y => same k y.1 && same v y.2) && pairsIn xs ys

end

end Value

end TypedClient.Yaml
