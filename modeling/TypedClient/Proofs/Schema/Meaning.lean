import Mathlib.Tactic.Lemma
import TypedClient.Json.Basic
import TypedClient.Schema.Pointer
import TypedClient.Schema.Basic

/-!
# What schemas mean

Which values a schema admits, said without validators.  A schema that is declared under a name says
what the parts of an object or an array are like, and anything else that it says does not count
(`Admits`).  A schema that is a part of another may also refer to a named schema, name a type, or
give a choice, but it does not look into objects (`PartAdmits`).

A property that is required may nevertheless be absent where its schema demands nothing
(`Unconstrained`).
-/

namespace TypedClient

/-- The values of a primitive type; every number counts as an integer. -/
inductive Primitive.Contains : Primitive → Json → Prop where
  | string (s : String) : Contains .string (.string s)
  | number (n : Number) : Contains .number (.number n)
  | integer (n : Number) : Contains .integer (.number n)
  | boolean (b : Bool) : Contains .boolean (.bool b)

/-- The name that the values of a primitive type have for their type. -/
def Primitive.valueTypeName : Primitive → String
  | .string => "string"
  | .number | .integer => "number"
  | .boolean => "boolean"

/-- A value is of a primitive type if and only if it has the right name for its type. -/
lemma Primitive.contains_iff {type : Primitive} {v : Json} :
    type.Contains v ↔ v.typeName = type.valueTypeName := by
  constructor
  · rintro ⟨⟩ <;> rfl
  · intro h
    cases type <;> cases v <;> first | constructor | simp [Json.typeName, valueTypeName] at h

namespace Schema

/-- The named schema that a pointer leads to. -/
def resolve? (schemas : Entries Schema) (pointer : String) : Option Schema :=
  (Pointer.schemaName? pointer).bind schemas.get?

/-- Whether the schema describes the parts of an object or an array. -/
def describesParts : Schema → Bool
  | .object _ _ _ _ | .array _ _ => true
  | _ => false

/-- A part that demands nothing: its type is unknown, or it is a reference to nothing or to a named
schema that describes no parts, or one of its choices is such a part. -/
inductive Unconstrained (schemas : Entries Schema) : Schema → Prop where
  | unknown (n : Notes) (type : Option String) : Unconstrained schemas (.unknown n type)
  | unresolved (n : Notes) {pointer : String} (h : resolve? schemas pointer = none) :
    Unconstrained schemas (.reference n pointer)
  | reference (n : Notes) {pointer : String} {s : Schema} (h : resolve? schemas pointer = some s)
    (hs : s.describesParts = false) : Unconstrained schemas (.reference n pointer)
  | union (n : Notes) {members : List Schema} {m : Schema} (hm : m ∈ members)
    (h : Unconstrained schemas m) : Unconstrained schemas (.union n members)

mutual

/-- The values that a schema admits when it is declared under a name. -/
inductive Admits (schemas : Entries Schema) : Schema → Json → Prop where
  /-- `null`, if the notes say so. -/
  | null {s : Schema} (h : s.nullable = true) : Admits schemas s .null
  /-- An object whose declared members are admitted, which lacks a required member only if nothing
  is demanded of it, and has undeclared members only if they are not excluded. -/
  | object (n : Notes) {properties : List (String × Schema)} {required : List String}
    {additional : Option Bool} {members : Entries Json}
    (hpresent : ∀ p ∈ properties, ∀ v, members.get? p.1 = some v → PartAdmits schemas p.2 v)
    (habsent : ∀ p ∈ properties, members.get? p.1 = none →
      p.1 ∉ required ∨ Unconstrained schemas p.2)
    (hclosed : additional = some false → ∀ name ∈ members.keys, ∃ p ∈ properties, p.1 = name) :
    Admits schemas (.object n properties required additional) (.object members)
  /-- An array whose items are admitted. -/
  | array (n : Notes) {items : Schema} {values : List Json}
    (h : ∀ v ∈ values, PartAdmits schemas items v) :
    Admits schemas (.array n items) (.array values)
  /-- Anything, if the schema describes no parts. -/
  | partless {s : Schema} {v : Json} (h : s.describesParts = false) : Admits schemas s v

/-- The values that a schema admits when it is a part of another. -/
inductive PartAdmits (schemas : Entries Schema) : Schema → Json → Prop where
  /-- `null`, if the notes say so. -/
  | null {s : Schema} (h : s.nullable = true) : PartAdmits schemas s .null
  /-- What the named schema admits that a reference leads to. -/
  | reference (n : Notes) {pointer : String} {s : Schema} {v : Json}
    (hs : resolve? schemas pointer = some s) (h : Admits schemas s v) :
    PartAdmits schemas (.reference n pointer) v
  /-- Anything, if a reference leads to nothing. -/
  | unresolved (n : Notes) {pointer : String} {v : Json} (h : resolve? schemas pointer = none) :
    PartAdmits schemas (.reference n pointer) v
  /-- Any object, where the members are declared. -/
  | object (n : Notes) (properties : List (String × Schema)) (required : List String)
    (additional : Option Bool) (members : Entries Json) :
    PartAdmits schemas (.object n properties required additional) (.object members)
  /-- Any object, where they are not. -/
  | freeObject (n : Notes) (required : List String) (additional : Option Bool)
    (members : Entries Json) :
    PartAdmits schemas (.freeObject n required additional) (.object members)
  /-- An array whose items are admitted. -/
  | array (n : Notes) {items : Schema} {values : List Json}
    (h : ∀ v ∈ values, PartAdmits schemas items v) :
    PartAdmits schemas (.array n items) (.array values)
  /-- Any array. -/
  | freeArray (n : Notes) (values : List Json) : PartAdmits schemas (.freeArray n) (.array values)
  /-- A value of the type. -/
  | primitive (n : Notes) {type : Primitive} {v : Json} (h : type.Contains v) :
    PartAdmits schemas (.primitive n type) v
  /-- What one of the choices admits. -/
  | union (n : Notes) {members : List Schema} {m : Schema} {v : Json} (hm : m ∈ members)
    (h : PartAdmits schemas m v) : PartAdmits schemas (.union n members) v
  /-- Anything, if the type is unknown. -/
  | unknown (n : Notes) (type : Option String) (v : Json) :
    PartAdmits schemas (.unknown n type) v

end

variable {schemas : Entries Schema}

/-! ## The meaning, shape by shape -/

variable {n : Notes} {pointer : String} {v : Json}

/-- A reference to a named schema demands nothing if and only if the schema describes no parts. -/
lemma unconstrained_reference_iff {s : Schema} (hs : resolve? schemas pointer = some s) :
    Unconstrained schemas (.reference n pointer) ↔ s.describesParts = false := by
  constructor
  · intro h
    cases h with
    | unresolved _ hnone => simp [hs] at hnone
    | reference _ hsome hparts =>
      obtain rfl := Option.some_inj.1 (hs.symm.trans hsome)
      exact hparts
  · exact .reference n hs

/-- A choice demands nothing if and only if one of its members demands nothing. -/
lemma unconstrained_union_iff {members : List Schema} :
    Unconstrained schemas (.union n members) ↔ ∃ m ∈ members, Unconstrained schemas m := by
  constructor
  · intro h
    cases h with
    | union _ hm h => exact ⟨_, hm, h⟩
  · rintro ⟨m, hm, h⟩
    exact .union n hm h

/-- What a named object schema demands of one property, in an object with given members. -/
def AdmitsProperty (schemas : Entries Schema) (required : List String) (members : Entries Json)
    (p : String × Schema) : Prop :=
  (∀ v, members.get? p.1 = some v → PartAdmits schemas p.2 v) ∧
    (members.get? p.1 = none → p.1 ∉ required ∨ Unconstrained schemas p.2)

/-- What is demanded of a property that is present. -/
lemma admitsProperty_iff_of_some {required : List String} {members : Entries Json}
    {p : String × Schema} (h : members.get? p.1 = some v) :
    AdmitsProperty schemas required members p ↔ PartAdmits schemas p.2 v := by
  simp [AdmitsProperty, h]

/-- What is demanded of a property that is absent. -/
lemma admitsProperty_iff_of_none {required : List String} {members : Entries Json}
    {p : String × Schema} (h : members.get? p.1 = none) :
    AdmitsProperty schemas required members p ↔
      p.1 ∉ required ∨ Unconstrained schemas p.2 := by
  simp [AdmitsProperty, h]

/-- What a named object schema admits. -/
lemma admits_object_iff {properties : List (String × Schema)} {required : List String}
    {additional : Option Bool} :
    Admits schemas (.object n properties required additional) v ↔
      (n.nullable = true ∧ v = .null) ∨
      ∃ members, v = .object members ∧
        (∀ p ∈ properties, AdmitsProperty schemas required members p) ∧
        (additional = some false →
          ∀ name ∈ Entries.keys members, ∃ p ∈ properties, p.1 = name) := by
  constructor
  · intro h
    cases h with
    | null h => exact Or.inl ⟨h, rfl⟩
    | object _ hpresent habsent hclosed =>
      exact Or.inr ⟨_, rfl, fun p hp => ⟨hpresent p hp, habsent p hp⟩, hclosed⟩
    | partless h => simp [describesParts] at h
  · rintro (⟨h, rfl⟩ | ⟨members, rfl, hproperties, hclosed⟩)
    · exact .null h
    · exact .object n (fun p hp => (hproperties p hp).1) (fun p hp => (hproperties p hp).2) hclosed

/-- What a named array schema admits. -/
lemma admits_array_iff {items : Schema} :
    Admits schemas (.array n items) v ↔
      (n.nullable = true ∧ v = .null) ∨
      ∃ values, v = .array values ∧ ∀ w ∈ values, PartAdmits schemas items w := by
  constructor
  · intro h
    cases h with
    | null h => exact Or.inl ⟨h, rfl⟩
    | array _ h => exact Or.inr ⟨_, rfl, h⟩
    | partless h => simp [describesParts] at h
  · rintro (⟨h, rfl⟩ | ⟨values, rfl, h⟩)
    · exact .null h
    · exact .array n h

/-- What a reference to a named schema admits. -/
lemma partAdmits_reference_iff {s : Schema} (hs : resolve? schemas pointer = some s) :
    PartAdmits schemas (.reference n pointer) v ↔
      (n.nullable = true ∧ v = .null) ∨ Admits schemas s v := by
  constructor
  · intro h
    cases h with
    | null h => exact Or.inl ⟨h, rfl⟩
    | reference _ hsome h =>
      obtain rfl := Option.some_inj.1 (hs.symm.trans hsome)
      exact Or.inr h
    | unresolved _ hnone => simp [hs] at hnone
  · rintro (⟨h, rfl⟩ | h)
    · exact .null h
    · exact .reference n hs h

/-- What an object admits as a part, where its members are declared. -/
lemma partAdmits_object_iff {properties : List (String × Schema)} {required : List String}
    {additional : Option Bool} :
    PartAdmits schemas (.object n properties required additional) v ↔
      (n.nullable = true ∧ v = .null) ∨ ∃ members, v = .object members := by
  constructor
  · intro h
    cases h with
    | null h => exact Or.inl ⟨h, rfl⟩
    | object _ _ _ _ members => exact Or.inr ⟨members, rfl⟩
  · rintro (⟨h, rfl⟩ | ⟨members, rfl⟩)
    · exact .null h
    · exact .object n _ _ _ _

/-- What an object admits as a part, where its members are not declared. -/
lemma partAdmits_freeObject_iff {required : List String} {additional : Option Bool} :
    PartAdmits schemas (.freeObject n required additional) v ↔
      (n.nullable = true ∧ v = .null) ∨ ∃ members, v = .object members := by
  constructor
  · intro h
    cases h with
    | null h => exact Or.inl ⟨h, rfl⟩
    | freeObject _ _ _ members => exact Or.inr ⟨members, rfl⟩
  · rintro (⟨h, rfl⟩ | ⟨members, rfl⟩)
    · exact .null h
    · exact .freeObject n _ _ _

/-- What an array admits as a part. -/
lemma partAdmits_array_iff {items : Schema} :
    PartAdmits schemas (.array n items) v ↔
      (n.nullable = true ∧ v = .null) ∨
      ∃ values, v = .array values ∧ ∀ w ∈ values, PartAdmits schemas items w := by
  constructor
  · intro h
    cases h with
    | null h => exact Or.inl ⟨h, rfl⟩
    | array _ h => exact Or.inr ⟨_, rfl, h⟩
  · rintro (⟨h, rfl⟩ | ⟨values, rfl, h⟩)
    · exact .null h
    · exact .array n h

/-- What an array admits as a part, where nothing is said about its items. -/
lemma partAdmits_freeArray_iff :
    PartAdmits schemas (.freeArray n) v ↔
      (n.nullable = true ∧ v = .null) ∨ ∃ values, v = .array values := by
  constructor
  · intro h
    cases h with
    | null h => exact Or.inl ⟨h, rfl⟩
    | freeArray _ values => exact Or.inr ⟨values, rfl⟩
  · rintro (⟨h, rfl⟩ | ⟨values, rfl⟩)
    · exact .null h
    · exact .freeArray n values

/-- What a primitive type admits. -/
lemma partAdmits_primitive_iff {type : Primitive} :
    PartAdmits schemas (.primitive n type) v ↔
      (n.nullable = true ∧ v = .null) ∨ type.Contains v := by
  constructor
  · intro h
    cases h with
    | null h => exact Or.inl ⟨h, rfl⟩
    | primitive _ h => exact Or.inr h
  · rintro (⟨h, rfl⟩ | h)
    · exact .null h
    · exact .primitive n h

/-- What a choice admits. -/
lemma partAdmits_union_iff {members : List Schema} :
    PartAdmits schemas (.union n members) v ↔
      (n.nullable = true ∧ v = .null) ∨ ∃ m ∈ members, PartAdmits schemas m v := by
  constructor
  · intro h
    cases h with
    | null h => exact Or.inl ⟨h, rfl⟩
    | union _ hm h => exact Or.inr ⟨_, hm, h⟩
  · rintro (⟨h, rfl⟩ | ⟨m, hm, h⟩)
    · exact .null h
    · exact .union n hm h

end Schema

end TypedClient
