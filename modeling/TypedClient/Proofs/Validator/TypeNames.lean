import TypedClient.Proofs.Schema.Uniform
import TypedClient.Proofs.Validator.Acceptance
import TypedClient.Proofs.Validator.Accepts
import TypedClient.Schema.OfJson

/-!
# Types by name

A schema object that is no reference names the types of the values it describes, under the keyword
`type` (`Schema.NamesTypes`).  As the schema of a property it accepts the values of these types, and
`null` if that is the name of a type or the keyword `nullable` says so; it accepts everything if it
names no other type than `null` (`Schema.AllowsTypes`).  What it accepts is thus independent of the
order in which the types are named and of how often (`Schema.acceptsPart_iff_allowsTypes`).

In a registry in which references lead in a circle there may be no answer; this cannot happen in a
registry that serves named schemas.
-/

namespace TypedClient.Schema

/-! ## Validators of properties -/

/-- The lenient compilation of the schema that a JSON value describes, as a part of the schema that
is declared under the name `current`. -/
def compilePart (order : SchemaOrder) (current : String) (json : Json) :
    Except Degradation Validator :=
  (Compilation.ofPart order current (ofJson json)).result false

/-- The schema that a JSON value describes, as a part, accepts a value. -/
def AcceptsPart (order : SchemaOrder) (current : String) (registry : Registry) (json v : Json) :
    Prop :=
  ∃ validator, compilePart order current json = .ok validator ∧ validator.Accepts registry v

/-- The schema that a JSON value describes, as a part, refuses a value. -/
def RefusesPart (order : SchemaOrder) (current : String) (registry : Registry) (json v : Json) :
    Prop :=
  ∃ validator, compilePart order current json = .ok validator ∧ validator.Refuses registry v

/-- The schema that a JSON value describes, as a part, accepts a value or refuses it. -/
def HasAnswer (order : SchemaOrder) (current : String) (registry : Registry) (json v : Json) :
    Prop :=
  AcceptsPart order current registry json v ∨ RefusesPart order current registry json v

/-! ## The types that an object names -/

/-- The names of the types that a schema object gives, alone or in a list, in which only texts
count. -/
inductive NamesTypes (members : Entries Json) : List String → Prop where
  | one {name : String} (h : members.get? "type" = some (.string name)) : NamesTypes members [name]
  | many {names : List Json} (h : members.get? "type" = some (.array names)) :
    NamesTypes members (names.filterMap Json.asString?)

/-- The type names that are known, except `null`. -/
def knownTypes : List String := ["string", "number", "integer", "boolean", "object", "array"]

/-- A value is of the type with a name, if the items of arrays have to satisfy a condition. -/
inductive IsOfType (item : Json → Prop) : String → Json → Prop where
  | string (s : String) : IsOfType item "string" (.string s)
  | number (n : Number) : IsOfType item "number" (.number n)
  | integer (n : Number) : IsOfType item "integer" (.number n)
  | boolean (b : Bool) : IsOfType item "boolean" (.bool b)
  | object (members : Entries Json) : IsOfType item "object" (.object members)
  | array {values : List Json} (h : ∀ w ∈ values, item w) : IsOfType item "array" (.array values)
  /-- Every value is of a type that is not known. -/
  | unknown {name : String} (v : Json) (h : name ∉ knownTypes) : IsOfType item name v

/-- A value is allowed by a schema object that names types: it is `null`, and this is a type or
declared to be allowed; or there is no other type than `null`; or the value is of one of the other
types, where the items of arrays have to be accepted by the schema for items, if there is one. -/
def AllowsTypes (order : SchemaOrder) (current : String) (registry : Registry)
    (members : Entries Json) (names : List String) (v : Json) : Prop :=
  (v = .null ∧ ("null" ∈ names ∨ members.get? "nullable" = some (.bool true))) ∨
    (∀ name ∈ names, name = "null") ∨
    ∃ name ∈ names, name ≠ "null" ∧
      IsOfType (fun w => ∀ items, members.get? "items" = some items →
        AcceptsPart order current registry items w) name v

variable {order : SchemaOrder} {current : String} {registry : Registry} {members : Entries Json}
  {names : List String} {v : Json}

/-! ## What each type accepts -/

/-- What a part accepts, its validator accepts. -/
lemma acceptsPart_iff {json : Json} :
    AcceptsPart order current registry json v ↔
      ((ofJson json).partValidator order current).Accepts registry v := by
  constructor
  · rintro ⟨validator, hcompile, haccepts⟩
    obtain rfl : (ofJson json).partValidator order current = validator := Except.ok.inj hcompile
    exact haccepts
  · exact fun h => ⟨_, rfl, h⟩

/-- What a part refuses, its validator refuses. -/
lemma refusesPart_iff {json : Json} :
    RefusesPart order current registry json v ↔
      ((ofJson json).partValidator order current).Refuses registry v := by
  constructor
  · rintro ⟨validator, hcompile, hrefuses⟩
    obtain rfl : (ofJson json).partValidator order current = validator := Except.ok.inj hcompile
    exact hrefuses
  · exact fun h => ⟨_, rfl, h⟩

/-- The types of values without parts are known. -/
lemma name_mem_knownTypes (type : Primitive) : type.name ∈ knownTypes := by
  cases type <;> decide

section IsOfType

variable {item : Json → Prop}

/-- The values of a primitive type are those of the type with its name. -/
lemma isOfType_primitive_iff {type : Primitive} : IsOfType item type.name v ↔ type.Contains v := by
  constructor
  · intro h
    generalize hname : type.name = name at h
    cases h with
    | string s =>
      cases type with
      | string => exact .string s
      | _ => simp [Primitive.name] at hname
    | number n =>
      cases type with
      | number => exact .number n
      | _ => simp [Primitive.name] at hname
    | integer n =>
      cases type with
      | integer => exact .integer n
      | _ => simp [Primitive.name] at hname
    | boolean b =>
      cases type with
      | boolean => exact .boolean b
      | _ => simp [Primitive.name] at hname
    | object members => cases type <;> simp [Primitive.name] at hname
    | array h => cases type <;> simp [Primitive.name] at hname
    | unknown v h => exact absurd (hname ▸ name_mem_knownTypes type) h
  · intro h
    cases h with
    | string s => exact .string s
    | number n => exact .number n
    | integer n => exact .integer n
    | boolean b => exact .boolean b

/-- The values of the type of objects are the objects. -/
lemma isOfType_object_iff : IsOfType item "object" v ↔ ∃ members, v = .object members := by
  constructor
  · intro h
    generalize hname : "object" = name at h
    cases h with
    | object members => exact ⟨members, rfl⟩
    | unknown v h => exact absurd (hname ▸ by decide) h
    | _ => simp at hname
  · rintro ⟨members, rfl⟩
    exact .object members

/-- The values of the type of arrays are the arrays whose items satisfy the condition. -/
lemma isOfType_array_iff :
    IsOfType item "array" v ↔ ∃ values, v = .array values ∧ ∀ w ∈ values, item w := by
  constructor
  · intro h
    generalize hname : "array" = name at h
    cases h with
    | array h => exact ⟨_, rfl, h⟩
    | unknown v h => exact absurd (hname ▸ by decide) h
    | _ => simp at hname
  · rintro ⟨values, rfl, h⟩
    exact .array h

end IsOfType

section OfType

variable {notes : Notes} {item : Json → Prop} {items : Option Schema}
  {properties : Option (List (String × Schema))} {name : String}

/-- The validator of the shape that a type name gives accepts the values of the type, if the
condition on items is that the validator of the items accepts them. -/
lemma accepts_ofType_iff
    (hitem : ∀ w, item w ↔
      ∀ s, items = some s → (s.partValidator order current).Accepts registry w) :
    ((ofType notes members items properties name).partValidator order current).Accepts registry v ↔
      notes.nullable = true ∧ v = .null ∨ IsOfType item name v := by
  have hprimitive : ∀ type : Primitive,
      ((Schema.primitive notes type).partValidator order current).Accepts registry v ↔
        notes.nullable = true ∧ v = .null ∨ IsOfType item type.name v := by
    intro type
    rw [isOfType_primitive_iff, Primitive.contains_iff]
    cases type <;>
      rw [partValidator, Validator.accepts_orNull_iff, Validator.Accepts, Validator.parse,
        Validator.parseFrom, (Validator.decides_expectType _).exists_ok_iff] <;> rfl
  have hopen : (orNull notes Validator.openObject).Accepts registry v ↔
      notes.nullable = true ∧ v = .null ∨ IsOfType item "object" v := by
    rw [isOfType_object_iff, Validator.accepts_orNull_iff, Validator.Accepts, Validator.parse,
      Validator.decides_openObject.exists_ok_iff]
  have hitems : ∀ inner : Validator, (∀ w, inner.Accepts registry w ↔ item w) →
      ((orNull notes (.array inner)).Accepts registry v ↔
        notes.nullable = true ∧ v = .null ∨ IsOfType item "array" v) := by
    intro inner hinner
    rw [isOfType_array_iff, Validator.accepts_orNull_iff, Validator.accepts_array_iff]
    simp only [hinner]
  unfold ofType
  split
  · exact hprimitive .string
  · exact hprimitive .number
  · exact hprimitive .integer
  · exact hprimitive .boolean
  · cases properties with
    | none => exact hopen
    | some ps => exact hopen
  · cases items with
    | none =>
      refine hitems .any fun w => ?_
      rw [hitem]
      exact iff_of_true ⟨w, by rw [Validator.parse, Validator.parseFrom]⟩ (by simp)
    | some s =>
      refine hitems _ fun w => ?_
      rw [hitem]
      simp
  · next hstring hnumber hinteger hboolean hobject harray =>
    have hunknown : name ∉ knownTypes := by
      simp only [knownTypes, List.mem_cons, List.not_mem_nil, or_false, not_or]
      exact ⟨hstring, hnumber, hinteger, hboolean, hobject, harray⟩
    rw [partValidator, Validator.accepts_orNull_iff]
    refine or_congr_right (iff_of_true ⟨v, ?_⟩ (.unknown v hunknown))
    rw [Validator.parse, Validator.parseFrom]

/-! ## What an object accepts -/

/-- The names that an object gives are those that are read. -/
lemma NamesTypes.typeNames_eq (h : NamesTypes members names) : typeNames members = names := by
  unfold typeNames
  cases h with
  | one h => rw [h]
  | many h => rw [h]

/-- Whether `null` is accepted in addition to the shape. -/
lemma NamesTypes.nullable_iff (h : NamesTypes members names) :
    (notesOf members).nullable = true ↔
      "null" ∈ names ∨ members.get? "nullable" = some (.bool true) := by
  have hkeyword : ((members.get? "nullable").bind Json.asBool?).getD false = true ↔
      members.get? "nullable" = some (.bool true) := by
    cases members.get? "nullable" with
    | none => simp
    | some value => cases value <;> simp [Json.asBool?]
  rw [notesOf, Bool.or_eq_true, hkeyword, h.typeNames_eq, List.contains_iff_mem, or_comm]

/-- No reference is read from an object without a text under the keyword `$ref`. -/
lemma reference_eq_none (hreference : ∀ pointer, members.get? "$ref" ≠ some (.string pointer)) :
    (members.get? "$ref").bind Json.asString? = none := by
  cases hget : members.get? "$ref" with
  | none => rfl
  | some value =>
    cases value with
    | string pointer => exact absurd hget (hreference pointer)
    | _ => rfl

/-- An object that is no reference accepts the values of the types that it names, if its validator
has an answer. -/
lemma accepts_ofMembers_iff {names : List String} (htypes : NamesTypes members names)
    (hreference : ∀ pointer, members.get? "$ref" ≠ some (.string pointer))
    (hitem : ∀ w, item w ↔
      ∀ s, items = some s → (s.partValidator order current).Accepts registry w)
    (hanswer :
      ((ofMembers members items properties).partValidator order current).Accepts registry v ∨
        ((ofMembers members items properties).partValidator order current).Refuses registry v) :
    ((ofMembers members items properties).partValidator order current).Accepts registry v ↔
      (v = .null ∧ ("null" ∈ names ∨ members.get? "nullable" = some (.bool true))) ∨
        (∀ name ∈ names, name = "null") ∨
        ∃ name ∈ names, name ≠ "null" ∧ IsOfType item name v := by
  have hall : (∀ name ∈ names, name = "null") ↔ names.filter (· != "null") = [] := by
    simp [List.filter_eq_nil_iff]
  have hsome : (∃ name ∈ names, name ≠ "null" ∧ IsOfType item name v) ↔
      ∃ name ∈ names.filter (· != "null"), IsOfType item name v := by
    simp [and_assoc]
  have hnull : (v = .null ∧ ("null" ∈ names ∨ members.get? "nullable" = some (.bool true))) ↔
      (notesOf members).nullable = true ∧ v = .null := by
    rw [← htypes.nullable_iff, and_comm]
  rw [hall, hsome, hnull]
  unfold ofMembers at hanswer ⊢
  rw [reference_eq_none hreference, htypes.typeNames_eq] at hanswer ⊢
  dsimp only at hanswer ⊢
  generalize names.filter (· != "null") = others at hanswer ⊢
  revert hanswer
  split
  · intro _
    rw [partValidator, Validator.accepts_orNull_iff]
    refine or_congr_right (iff_of_true ⟨v, ?_⟩ (Or.inl rfl))
    rw [Validator.parse, Validator.parseFrom]
  · intro _
    rw [accepts_ofType_iff hitem]
    simp
  · next hother _ =>
    intro hanswer
    rw [partValidator, memberValidators_eq_map, List.map_map] at hanswer ⊢
    rw [Validator.accepts_orNull_iff, or_iff_right hother]
    by_cases hv : (notesOf members).nullable = true ∧ v = .null
    · exact iff_of_true (Or.inl hv) (Or.inl hv)
    · rw [Validator.Accepts, Validator.Refuses, Validator.parse, Validator.parseFrom_orNull hv]
        at hanswer
      rw [or_iff_right hv, or_iff_right hv, Validator.accepts_union_iff hanswer]
      simp [accepts_ofType_iff hitem]

end OfType

/-- A part that is no reference accepts the values that the types it names allow, if its validator
has an answer. -/
lemma acceptsPart_iff_of_answer (htypes : NamesTypes members names)
    (hreference : ∀ pointer, members.get? "$ref" ≠ some (.string pointer))
    (hanswer : HasAnswer order current registry (.object members) v) :
    AcceptsPart order current registry (.object members) v ↔
      AllowsTypes order current registry members names v := by
  rw [HasAnswer, acceptsPart_iff, refusesPart_iff, ofJson] at hanswer
  rw [acceptsPart_iff, ofJson, AllowsTypes]
  refine accepts_ofMembers_iff htypes hreference (fun w => ?_) hanswer
  rw [itemsIn_eq]
  simp [acceptsPart_iff]

/-- Where the registry serves named schemas, every part has an answer. -/
lemma hasAnswer_of_serves {schemas : Entries Schema} (hserves : registry.Serves schemas order)
    (current : String) (json v : Json) : HasAnswer order current registry json v := by
  rw [HasAnswer, acceptsPart_iff, refusesPart_iff]
  exact (decides_partValidator hserves v (ofJson json) current).accepts_or_refuses

/-- What the types allow is a matter of which types there are, of the items and of `nullable`. -/
lemma allowsTypes_congr {members' : Entries Json} {names' : List String}
    (hnames : ∀ name, name ∈ names' ↔ name ∈ names)
    (hnullable : members'.get? "nullable" = members.get? "nullable")
    (hitems : members'.get? "items" = members.get? "items") :
    AllowsTypes order current registry members' names' v ↔
      AllowsTypes order current registry members names v := by
  simp only [AllowsTypes, hnames, hnullable, hitems]

/-- An object that is no reference and names types, read as the schema of a part and compiled,
accepts the values that the types allow, where there is an answer.  There is one for every value, if
the registry serves named schemas.  Two objects that name the same types, in any order and any
number of times, accept the same values, if they agree on `nullable` and `items`. -/
theorem acceptsPart_iff_allowsTypes (order : SchemaOrder) (current : String) (registry : Registry)
    {members : Entries Json} {names : List String}
    (hreference : ∀ pointer, members.get? "$ref" ≠ some (.string pointer))
    (htypes : NamesTypes members names) :
    (∀ v, HasAnswer order current registry (.object members) v →
      (AcceptsPart order current registry (.object members) v ↔
        AllowsTypes order current registry members names v)) ∧
    (∀ schemas, registry.Serves schemas order → ∀ v,
      HasAnswer order current registry (.object members) v) ∧
    ∀ members' names', (∀ pointer, members'.get? "$ref" ≠ some (.string pointer)) →
      NamesTypes members' names' → (∀ name, name ∈ names' ↔ name ∈ names) →
      members'.get? "nullable" = members.get? "nullable" →
      members'.get? "items" = members.get? "items" →
      ∀ v, HasAnswer order current registry (.object members) v →
        HasAnswer order current registry (.object members') v →
        (AcceptsPart order current registry (.object members') v ↔
          AcceptsPart order current registry (.object members) v) := by
  refine ⟨fun v => acceptsPart_iff_of_answer htypes hreference,
    fun schemas hserves v => hasAnswer_of_serves hserves current (.object members) v, ?_⟩
  intro members' names' hreference' htypes' hnames hnullable hitems v hanswer hanswer'
  rw [acceptsPart_iff_of_answer htypes' hreference' hanswer',
    acceptsPart_iff_of_answer htypes hreference hanswer]
  exact allowsTypes_congr hnames hnullable hitems

/-- The schema of texts. -/
def texts : Entries Json := [("type", .string "string")]

/-- The schema of numbers and of lists of texts, with `null`. -/
def numberOrTexts : Entries Json :=
  [("type", .array [.string "number", .string "null", .string "array", .string "number"]),
    ("items", .object texts)]

/-- The schema of numbers and of lists of texts, with its types in another order. -/
def textsOrNumber : Entries Json :=
  [("items", .object texts),
    ("type", .array [.string "array", .bool true, .string "number", .string "null"])]

/-- The schema of numbers and of lists of texts accepts `null` and a list of texts, but no text; and
in another order of its types it accepts the same values. -/
theorem acceptsPart_numberOrTexts :
    let order := SchemaOrder.ofSchemas []
    let registry := Registry.ofDeclarations (Declaration.compiled [] order)
    AcceptsPart order "" registry (.object numberOrTexts) .null ∧
      AcceptsPart order "" registry (.object numberOrTexts) (.array [.string "a"]) ∧
      ¬AcceptsPart order "" registry (.object numberOrTexts) (.string "a") ∧
      ∀ v, AcceptsPart order "" registry (.object textsOrNumber) v ↔
        AcceptsPart order "" registry (.object numberOrTexts) v := by
  intro order registry
  have hanswer : ∀ json v, HasAnswer order "" registry json v :=
    hasAnswer_of_serves (Registry.serves_compiled []) ""
  have htexts : NamesTypes texts ["string"] := .one rfl
  have htypes : NamesTypes numberOrTexts ["number", "null", "array", "number"] := by
    have h : NamesTypes numberOrTexts _ := .many rfl
    exact h
  have hreordered : NamesTypes textsOrNumber ["array", "number", "null"] := by
    have h : NamesTypes textsOrNumber _ := .many rfl
    exact h
  have hreference : ∀ members : Entries Json, members.get? "$ref" = none →
      ∀ pointer, members.get? "$ref" ≠ some (.string pointer) := by
    intro members hnone pointer
    simp [hnone]
  have hitem : AcceptsPart order "" registry (.object texts) (.string "a") := by
    have hallows := acceptsPart_iff_allowsTypes order "" registry (hreference texts rfl) htexts
    refine (hallows.1 _ (hanswer _ _)).2 (Or.inr (Or.inr ⟨"string", ?_⟩))
    exact ⟨by decide, by decide, .string "a"⟩
  obtain ⟨hallows, -, hsame⟩ :=
    acceptsPart_iff_allowsTypes order "" registry (hreference numberOrTexts rfl) htypes
  refine ⟨?null, ?list, ?text, fun v => ?reordered⟩
  case null =>
    exact (hallows _ (hanswer _ _)).2 (Or.inl ⟨rfl, Or.inl (by decide)⟩)
  case list =>
    refine (hallows _ (hanswer _ _)).2 (Or.inr (Or.inr ⟨"array", by decide, by decide, ?_⟩))
    refine .array fun w hw items hitems => ?_
    obtain rfl : .string "a" = w := (List.mem_singleton.1 hw).symm
    obtain rfl : .object texts = items := Option.some_inj.1 hitems
    exact hitem
  case text =>
    have hknown : ∀ name ∈ ["number", "null", "array", "number"], name ≠ "null" →
        name ∈ knownTypes := by
      decide
    rw [hallows _ (hanswer _ _)]
    rintro (⟨⟨⟩, -⟩ | hnull | ⟨name, hname, hother, htype⟩)
    · exact absurd (hnull "number" (by decide)) (by decide)
    · generalize htext : Json.string "a" = text at htype
      cases htype with
      | string s => exact absurd hname (by decide)
      | unknown v h => exact h (hknown name hname hother)
      | _ => cases htext
  case reordered =>
    exact hsame textsOrNumber _ (hreference textsOrNumber rfl) hreordered (by simp; tauto) rfl rfl v
      (hanswer _ _) (hanswer _ _)

end TypedClient.Schema
