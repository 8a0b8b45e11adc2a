import TypedClient.Entries

/-!
# Validators

A validator is an expression that accepts or refuses JSON values.  Named validators are kept in a
registry, where a reference finds them.
-/

namespace TypedClient

/-- What an object validator does with members that it does not declare. -/
inductive Mode where
  /-- Leaves them out of the result. -/
  | strip
  /-- Refuses the object. -/
  | strict
  /-- Keeps them. -/
  | passthrough
deriving DecidableEq

/-- A declared member of an object. -/
structure Field (Body : Type) where
  /-- The name of the member. -/
  name : String
  /-- What its value has to satisfy. -/
  body : Body
  /-- A description for human readers. -/
  description : Option String := none
deriving DecidableEq

/-- A validator. -/
inductive Validator where
  /-- Any text. -/
  | string
  /-- Any number. -/
  | number
  /-- A truth value. -/
  | boolean
  /-- Anything, and absence. -/
  | any
  /-- An object with declared members. -/
  | object (fields : List (Field Validator)) (mode : Mode)
  /-- An array whose items satisfy a validator. -/
  | array (items : Validator)
  /-- What some member accepts; the first one that does decides. -/
  | union (members : List Validator)
  /-- `null`, or what the inner validator accepts. -/
  | nullable (inner : Validator)
  /-- Absence, or what the inner validator accepts. -/
  | optional (inner : Validator)
  /-- What the validator of a name accepts.  A deferred reference stands before the declaration of
  the name, or in it. -/
  | reference (name : String) (deferred : Bool)
deriving Inhabited

namespace Validator

/-- Any object; its members are kept. -/
def openObject : Validator := .object [] .passthrough

/-- Whether the validator is a reference. -/
def isReference : Validator → Bool
  | .reference _ _ => true
  | _ => false

mutual

/-- The references in a validator, from left to right, each with its mark. -/
def references : Validator → List (String × Bool)
  | object fields _ => referencesOfFields fields
  | array items => items.references
  | union members => referencesOfMembers members
  | nullable inner => inner.references
  | optional inner => inner.references
  | reference name deferred => [(name, deferred)]
  | _ => []

/-- The references in a list of fields. -/
def referencesOfFields : List (Field Validator) → List (String × Bool)
  | [] => []
  | ⟨_, v, _⟩ :: rest => v.references ++ referencesOfFields rest

/-- The references in a list of validators. -/
def referencesOfMembers : List Validator → List (String × Bool)
  | [] => []
  | v :: rest => v.references ++ referencesOfMembers rest

end

end Validator

/-- Named validators. -/
abbrev Registry := Entries Validator

/-- The names of a registry that are not on a trail. -/
def Registry.offTrail (registry : Registry) (trail : List String) : List String :=
  (Entries.keys registry).filter fun name => !trail.contains name

theorem Registry.length_offTrail_cons_lt (registry : Registry) {trail : List String} {name : String}
    (hmem : name ∈ Entries.keys registry) (htrail : name ∉ trail) :
    (Registry.offTrail registry (name :: trail)).length <
      (Registry.offTrail registry trail).length := by
  have hsub : Registry.offTrail registry (name :: trail) =
      (Registry.offTrail registry trail).filter (· != name) := by
    simp only [Registry.offTrail, List.filter_filter]
    refine List.filter_congr fun x _ => ?_
    by_cases hx : x = name <;> simp [hx]
  rw [hsub]
  have hin : name ∈ Registry.offTrail registry trail := by
    simp [Registry.offTrail, hmem, htrail]
  exact List.length_filter_lt_length_iff_exists.2 ⟨name, hin, by simp⟩

end TypedClient
