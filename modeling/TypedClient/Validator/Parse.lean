import TypedClient.Json.Basic
import TypedClient.Validator.Basic
import TypedClient.Validator.Issue

/-!
# What validators accept

`Validator.parse` applies a validator to a value and yields the parsed value, which differs from the
value only where an object validator leaves members out.

References are looked up in a registry.  The names that were looked up since the last step into a
part of the value form a trail; a name that comes up again while it is on the trail would come up
forever, and the answer is `Refusal.endless`.  So both functions end for every registry, and tell a
circle of references from a refusal.
-/

namespace TypedClient

theorem Entries.sizeOf_lt_of_get? {es : Entries Json} {key : String} {v : Json}
    (h : es.get? key = some v) : sizeOf v < sizeOf es := by
  induction es with
  | nil => simp at h
  | cons e rest ih =>
    obtain ⟨k, w⟩ := e
    simp only [Entries.get?] at h
    split at h
    · simp only [Option.some.injEq] at h
      subst h
      simp
      omega
    · have := ih h
      simp
      omega

namespace Validator

mutual

/-- Whether a member may be absent; none if the references lead in a circle.  A reference to a
reference never allows absence. -/
def acceptsMissing (registry : Registry) (trail : List String) : Validator → Option Bool
  | .any => some true
  | .optional _ => some true
  | .nullable inner => inner.acceptsMissing registry trail
  | .union members => someAcceptsMissing registry trail members
  | .reference name _ =>
    if _htrail : name ∈ trail then none
    else
      match _hname : Entries.get? registry name with
      | none => some false
      | some target =>
        if target.isReference then some false
        else target.acceptsMissing registry (name :: trail)
  | _ => some false
termination_by v => ((Registry.offTrail registry trail).length, sizeOf v)
decreasing_by
  · exact Prod.Lex.right _ (by simp)
  · exact Prod.Lex.right _ (by simp)
  · exact Prod.Lex.left _ _ (Registry.length_offTrail_cons_lt registry
      (Entries.mem_keys_of_get? _hname) _htrail)

/-- Whether some validator of a list, the first that decides, allows absence. -/
def someAcceptsMissing (registry : Registry) (trail : List String) : List Validator → Option Bool
  | [] => some false
  | v :: rest =>
    match v.acceptsMissing registry trail with
    | none => none
    | some true => some true
    | some false => someAcceptsMissing registry trail rest
termination_by vs => ((Registry.offTrail registry trail).length, sizeOf vs)
decreasing_by
  · exact Prod.Lex.right _ (by simp only [List.cons.sizeOf_spec]; omega)
  · exact Prod.Lex.right _ (by simp only [List.cons.sizeOf_spec]; omega)

end

/-- Keeps a value of the expected type and refuses any other. -/
def expectType (expected : String) (value : Json) : Except Refusal Json :=
  if value.typeName = expected then .ok value
  else .error (.issue ⟨[], .mismatch expected value.typeName⟩)

/-- The members of an object that a list of fields does not declare. -/
def undeclared (fields : List (Field Validator)) (members : Entries Json) : Entries Json :=
  members.filter fun member => !fields.any fun field => field.name == member.1

/-- Adds what the mode of an object validator does with the undeclared members to the result for the
declared ones. -/
def closeObject (mode : Mode) (extra declared : Entries Json) : Except Refusal Json :=
  match mode with
  | .strip => .ok (.object declared)
  | .strict =>
    if extra.isEmpty then .ok (.object declared)
    else .error (.issue ⟨[], .unrecognized extra.keys⟩)
  | .passthrough => .ok (.object (extra.foldl (fun out member => Entries.put out member.1 member.2) declared))

mutual

/-- Applies a validator to a value. -/
def parseFrom (registry : Registry) (trail : List String) : Validator → Json → Except Refusal Json
  | .any, value => .ok value
  | .string, value => expectType "string" value
  | .number, value => expectType "number" value
  | .boolean, value => expectType "boolean" value
  | .nullable _, .null => .ok .null
  | .nullable inner, value => inner.parseFrom registry trail value
  | .optional inner, value => inner.parseFrom registry trail value
  | .array items, .array values => (parseItems registry items 0 values).map .array
  | .array _, value => .error (.issue ⟨[], .mismatch "array" value.typeName⟩)
  | .union members, value => parseFirst registry trail members value
  | .object fields mode, .object members =>
    match parseFields registry fields members [] with
    | .error refusal => .error refusal
    | .ok declared => closeObject mode (undeclared fields members) declared
  | .object _ _, value => .error (.issue ⟨[], .mismatch "object" value.typeName⟩)
  | .reference name _, value =>
    if _htrail : name ∈ trail then .error .endless
    else
      match _hname : Entries.get? registry name with
      | none => .error (.issue ⟨[], .unknownReference name⟩)
      | some target => target.parseFrom registry (name :: trail) value
termination_by v value => (sizeOf value, (Registry.offTrail registry trail).length, sizeOf v)
decreasing_by
  · exact Prod.Lex.right _ (Prod.Lex.right _ (by simp))
  · exact Prod.Lex.right _ (Prod.Lex.right _ (by simp))
  · exact Prod.Lex.left _ _ (by simp)
  · exact Prod.Lex.right _ (Prod.Lex.right _ (by simp))
  · exact Prod.Lex.left _ _ (by simp)
  · exact Prod.Lex.right _ (Prod.Lex.left _ _ (Registry.length_offTrail_cons_lt registry
      (Entries.mem_keys_of_get? _hname) _htrail))

/-- Applies a validator to the items of an array, from a given index on. -/
def parseItems (registry : Registry) (items : Validator) (index : Nat) :
    List Json → Except Refusal (List Json)
  | [] => .ok []
  | value :: rest =>
    match items.parseFrom registry [] value with
    | .error refusal => .error (refusal.under (toString index))
    | .ok parsed => (parseItems registry items (index + 1) rest).map (parsed :: ·)
termination_by values => (sizeOf values, 0, 0)
decreasing_by
  · exact Prod.Lex.left _ _ (by simp only [List.cons.sizeOf_spec]; omega)
  · exact Prod.Lex.left _ _ (by simp only [List.cons.sizeOf_spec]; omega)

/-- Applies the first validator of a list that accepts the value. -/
def parseFirst (registry : Registry) (trail : List String) :
    List Validator → Json → Except Refusal Json
  | [], _ => .error (.issue ⟨[], .noMember⟩)
  | v :: rest, value =>
    match v.parseFrom registry trail value with
    | .ok parsed => .ok parsed
    | .error .endless => .error .endless
    | .error (.issue _) => parseFirst registry trail rest value
termination_by vs value => (sizeOf value, (Registry.offTrail registry trail).length, sizeOf vs)
decreasing_by
  · exact Prod.Lex.right _ (Prod.Lex.right _ (by simp only [List.cons.sizeOf_spec]; omega))
  · exact Prod.Lex.right _ (Prod.Lex.right _ (by simp only [List.cons.sizeOf_spec]; omega))

/-- Applies the validators of fields to the members of an object, one field after the other; `out`
holds the members parsed so far. -/
def parseFields (registry : Registry) :
    List (Field Validator) → Entries Json → Entries Json → Except Refusal (Entries Json)
  | [], _, out => .ok out
  | field :: rest, members, out =>
    match _hvalue : Entries.get? members field.name with
    | some value =>
      match field.body.parseFrom registry [] value with
      | .error refusal => .error (refusal.under field.name)
      | .ok parsed => parseFields registry rest members (out.put field.name parsed)
    | none =>
      match field.body.acceptsMissing registry [] with
      | some true => parseFields registry rest members out
      | some false => .error (.issue ⟨[field.name], .required⟩)
      | none => .error .endless
termination_by fields members _ => (sizeOf members, 0, sizeOf fields)
decreasing_by
  · exact Prod.Lex.left _ _ (Entries.sizeOf_lt_of_get? _hvalue)
  · exact Prod.Lex.right _ (Prod.Lex.right _ (by simp only [List.cons.sizeOf_spec]; omega))
  · exact Prod.Lex.right _ (Prod.Lex.right _ (by simp only [List.cons.sizeOf_spec]; omega))

end

/-- Applies a validator to a value. -/
def parse (v : Validator) (registry : Registry) (value : Json) : Except Refusal Json :=
  v.parseFrom registry [] value

/-- Whether a member that the validator is declared for may be absent; none if the references lead
in a circle. -/
def mayBeAbsent (v : Validator) (registry : Registry) : Option Bool := v.acceptsMissing registry []

end Validator

end TypedClient
