import Mathlib.Tactic.Lemma
import TypedClient.Validator.OfSchema
import TypedClient.Validator.Parse

/-!
# What the parts of a validator decide

The application of a validator decides a condition if it ends in a value when the condition holds,
and in an issue when it does not (`Decides`); it is then never endless.  For each kind of validator
there is a lemma that tells the condition it decides from those that its parts decide.  Likewise
`Answers` says that the question whether a member may be absent has an answer, and which one.
-/

namespace TypedClient.Validator

variable {α β : Type}

/-- An application ends in a value if a condition holds, and in an issue if it does not. -/
inductive Decides (P : Prop) : Except Refusal α → Prop where
  /-- The condition holds, and the application ends in a value. -/
  | ok (h : P) (result : α) : Decides P (.ok result)
  /-- The condition does not hold, and the application ends in an issue. -/
  | issue (h : ¬P) (i : Issue) : Decides P (.error (.issue i))

/-- A question has the answer that a condition calls for. -/
def Answers (P : Prop) (answer : Option Bool) : Prop :=
  (P ∧ answer = some true) ∨ (¬P ∧ answer = some false)

namespace Decides

variable {P Q : Prop} {outcome : Except Refusal α}

/-- What decides a condition decides every equivalent one. -/
lemma congr (h : Decides P outcome) (hiff : P ↔ Q) : Decides Q outcome := by
  rwa [← hiff]

/-- An application that decides a condition ends in a value if and only if the condition holds. -/
lemma exists_ok_iff (h : Decides P outcome) : (∃ result, outcome = .ok result) ↔ P := by
  cases h with
  | ok hP result => simp [hP]
  | issue hP i => simp [hP]

/-- An application that decides a condition ends in an issue if and only if the condition does not
hold. -/
lemma exists_issue_iff (h : Decides P outcome) : (∃ i, outcome = .error (.issue i)) ↔ ¬P := by
  cases h with
  | ok hP result => simp [hP]
  | issue hP i => simp [hP]

/-- To change the value of an application does not change what it decides. -/
lemma map (f : α → β) (h : Decides P outcome) : Decides P (outcome.map f) := by
  cases h with
  | ok hP result => exact .ok hP _
  | issue hP i => exact .issue hP _

end Decides

namespace Answers

variable {P Q : Prop} {answer : Option Bool}

/-- What answers to a condition answers to every equivalent one. -/
lemma congr (h : Answers P answer) (hiff : P ↔ Q) : Answers Q answer := by
  rwa [← hiff]

/-- The answer yes, where the condition holds. -/
lemma yes (h : P) : Answers P (some true) := Or.inl ⟨h, rfl⟩

/-- The answer no, where the condition does not hold. -/
lemma no (h : ¬P) : Answers P (some false) := Or.inr ⟨h, rfl⟩

end Answers

variable {registry : Registry} {trail : List String} {value : Json}

/-! ## Absence -/

/-- Whether a member may be absent does not depend on whether `null` is accepted. -/
lemma acceptsMissing_orNull (notes : Notes) (v : Validator) :
    (Schema.orNull notes v).acceptsMissing registry trail = v.acceptsMissing registry trail := by
  unfold Schema.orNull
  split
  · rw [acceptsMissing]
  · rfl

/-- A union allows absence if and only if one of its members does. -/
lemma answers_union {β : Type} {members : List β} {toValidator : β → Validator} {P : β → Prop}
    (h : ∀ m ∈ members, Answers (P m) ((toValidator m).acceptsMissing registry trail)) :
    Answers (∃ m ∈ members, P m)
      ((union (members.map toValidator)).acceptsMissing registry trail) := by
  rw [acceptsMissing]
  induction members with
  | nil =>
    rw [List.map_nil, someAcceptsMissing]
    exact .no (by simp)
  | cons m rest ih =>
    rw [List.forall_mem_cons] at h
    rw [List.map_cons, someAcceptsMissing]
    rcases h.1 with ⟨hm, hanswer⟩ | ⟨hm, hanswer⟩
    · rw [hanswer]
      exact .yes ⟨m, List.mem_cons_self, hm⟩
    · rw [hanswer]
      exact (ih h.2).congr (by simp [hm])

/-- A reference asks the validator that is registered under its name; if there is none, or if that
is a reference itself, absence is not allowed. -/
lemma acceptsMissing_reference_eq {name : String} {deferred : Bool} (htrail : name ∉ trail) :
    (reference name deferred).acceptsMissing registry trail =
      match registry.get? name with
      | none => some false
      | some target =>
        if target.isReference then some false
        else target.acceptsMissing registry (name :: trail) := by
  rw [acceptsMissing, dif_neg htrail]
  split
  · next hnone => rw [hnone]
  · next target htarget => rw [htarget]

/-- A reference to a validator that is none itself asks that validator. -/
lemma acceptsMissing_reference {name : String} {deferred : Bool} {target : Validator}
    (htrail : name ∉ trail) (hname : registry.get? name = some target)
    (htarget : target.isReference = false) :
    (reference name deferred).acceptsMissing registry trail =
      target.acceptsMissing registry (name :: trail) := by
  rw [acceptsMissing_reference_eq htrail, hname]
  simp [htarget]

/-! ## Values without parts -/

/-- The test for a type decides whether the value has the type. -/
lemma decides_expectType (expected : String) :
    Decides (value.typeName = expected) (expectType expected value) := by
  unfold expectType
  split
  · next h => exact .ok h _
  · next h => exact .issue h _

/-- A validator that accepts anything decides what always holds. -/
lemma decides_any {P : Prop} (h : P) : Decides P (any.parseFrom registry trail value) := by
  rw [parseFrom]
  exact .ok h _

/-- Where `null` is accepted as well, it is left as it is. -/
lemma parseFrom_orNull_null {notes : Notes} (h : notes.nullable = true) (v : Validator) :
    (Schema.orNull notes v).parseFrom registry trail .null = .ok .null := by
  rw [Schema.orNull, if_pos h, parseFrom]

/-- To accept `null` as well changes nothing else. -/
lemma parseFrom_orNull {notes : Notes} (h : ¬(notes.nullable = true ∧ value = .null))
    (v : Validator) :
    (Schema.orNull notes v).parseFrom registry trail value =
      v.parseFrom registry trail value := by
  unfold Schema.orNull
  split
  · next hnullable =>
    rw [parseFrom]
    exact fun hnull => h ⟨hnullable, hnull⟩
  · rfl

/-- To accept `null` as well adds that case to what is decided. -/
lemma decides_orNull {P : Prop} (notes : Notes) {v : Validator}
    (h : Decides P (v.parseFrom registry trail value)) :
    Decides ((notes.nullable = true ∧ value = .null) ∨ P)
      ((Schema.orNull notes v).parseFrom registry trail value) := by
  by_cases hnull : notes.nullable = true ∧ value = .null
  · obtain ⟨hnullable, rfl⟩ := hnull
    rw [parseFrom_orNull_null hnullable]
    exact .ok (Or.inl ⟨hnullable, rfl⟩) _
  · rw [parseFrom_orNull hnull]
    exact h.congr (by simp [hnull])

/-- A reference makes of a value what the validator makes of it that is registered under its name; if
there is none, the value is refused. -/
lemma parseFrom_reference_eq {name : String} {deferred : Bool} (htrail : name ∉ trail) :
    (reference name deferred).parseFrom registry trail value =
      match registry.get? name with
      | none => .error (.issue ⟨[], .unknownReference name⟩)
      | some target => target.parseFrom registry (name :: trail) value := by
  rw [parseFrom, dif_neg htrail]
  split
  · next hnone => rw [hnone]
  · next target htarget => rw [htarget]

/-- A reference to a registered name decides what the validator of the name does. -/
lemma parseFrom_reference {name : String} {deferred : Bool} {target : Validator}
    (htrail : name ∉ trail) (hname : registry.get? name = some target) :
    (reference name deferred).parseFrom registry trail value =
      target.parseFrom registry (name :: trail) value := by
  rw [parseFrom_reference_eq htrail, hname]

/-! ## Values with parts -/

/-- The items of an array are parsed if and only if each of them satisfies the condition. -/
lemma decides_parseItems {items : Validator} {P : Json → Prop} {values : List Json}
    (h : ∀ v ∈ values, Decides (P v) (items.parseFrom registry [] v)) (index : Nat) :
    Decides (∀ v ∈ values, P v) (parseItems registry items index values) := by
  induction values generalizing index with
  | nil =>
    rw [parseItems]
    exact .ok (by simp) _
  | cons v rest ih =>
    rw [List.forall_mem_cons] at h
    obtain ⟨hv, hrest⟩ := h
    rw [parseItems]
    generalize items.parseFrom registry [] v = outcome at hv
    cases hv with
    | ok hP parsed => exact ((ih hrest (index + 1)).map (parsed :: ·)).congr (by simp [hP])
    | issue hP i => exact .issue (by simp [hP]) _

/-- An array validator decides whether the value is an array whose items satisfy what the validator
of the items decides. -/
lemma decides_array {items : Validator} {P : Json → Prop}
    (h : ∀ values, value = .array values →
      ∀ v ∈ values, Decides (P v) (items.parseFrom registry [] v)) :
    Decides (∃ values, value = .array values ∧ ∀ v ∈ values, P v)
      ((array items).parseFrom registry trail value) := by
  cases value with
  | array values =>
    rw [parseFrom]
    exact ((decides_parseItems (h values rfl) 0).map Json.array).congr (by simp)
  | _ =>
    rw [parseFrom]
    · exact .issue (by simp) _
    · simp

/-- A union decides whether some member accepts the value. -/
lemma decides_union {members : List β} {toValidator : β → Validator} {P : β → Prop}
    (h : ∀ m ∈ members, Decides (P m) ((toValidator m).parseFrom registry trail value)) :
    Decides (∃ m ∈ members, P m)
      ((union (members.map toValidator)).parseFrom registry trail value) := by
  rw [parseFrom]
  induction members with
  | nil =>
    rw [List.map_nil, parseFirst]
    exact .issue (by simp) _
  | cons m rest ih =>
    rw [List.forall_mem_cons] at h
    obtain ⟨hm, hrest⟩ := h
    rw [List.map_cons, parseFirst]
    generalize (toValidator m).parseFrom registry trail value = outcome at hm
    cases hm with
    | ok hP parsed => exact .ok ⟨m, List.mem_cons_self, hP⟩ _
    | issue hP i => exact (ih hrest).congr (by simp [hP])

/-- A field decides a condition on the objects: its validator decides it where the member is
present, and answers to it where the member is absent. -/
def FieldDecides (registry : Registry) (members : Entries Json) (P : Prop)
    (field : Field Validator) : Prop :=
  match members.get? field.name with
  | some v => Decides P (field.body.parseFrom registry [] v)
  | none => Answers P (field.body.acceptsMissing registry [])

/-- A field whose member is present decides what its validator does. -/
lemma fieldDecides_of_some {members : Entries Json} {P : Prop} {field : Field Validator} {v : Json}
    (hget : members.get? field.name = some v)
    (h : Decides P (field.body.parseFrom registry [] v)) :
    FieldDecides registry members P field := by
  unfold FieldDecides
  rw [hget]
  exact h

/-- A field whose member is absent decides whether that may be. -/
lemma fieldDecides_of_none {members : Entries Json} {P : Prop} {field : Field Validator}
    (hget : members.get? field.name = none)
    (h : Answers P (field.body.acceptsMissing registry [])) :
    FieldDecides registry members P field := by
  unfold FieldDecides
  rw [hget]
  exact h

/-- The declared members of an object are parsed if and only if the conditions of all fields
hold. -/
lemma decides_parseFields {fields : List β} {toField : β → Field Validator} {P : β → Prop}
    {members : Entries Json} (h : ∀ f ∈ fields, FieldDecides registry members (P f) (toField f))
    (out : Entries Json) :
    Decides (∀ f ∈ fields, P f) (parseFields registry (fields.map toField) members out) := by
  induction fields generalizing out with
  | nil =>
    rw [List.map_nil, parseFields]
    exact .ok (by simp) _
  | cons f rest ih =>
    rw [List.forall_mem_cons] at h
    obtain ⟨hf, hrest⟩ := h
    rw [List.map_cons, parseFields]
    unfold FieldDecides at hf
    split
    · next v hv =>
      rw [hv] at hf
      simp only at hf
      generalize (toField f).body.parseFrom registry [] v = outcome at hf
      cases hf with
      | ok hP parsed => exact (ih hrest _).congr (by simp [hP])
      | issue hP i => exact .issue (by simp [hP]) _
    · next hv =>
      rw [hv] at hf
      rcases hf with ⟨hP, hanswer⟩ | ⟨hP, hanswer⟩
      · rw [hanswer]
        exact (ih hrest _).congr (by simp [hP])
      · rw [hanswer]
        exact .issue (by simp [hP]) _

/-- Whether undeclared members matter is decided by the mode of an object validator. -/
lemma decides_closeObject (mode : Mode) (extra declared : Entries Json) :
    Decides (mode = .strict → extra = []) (closeObject mode extra declared) := by
  cases mode with
  | strip => exact .ok (by simp) _
  | passthrough => exact .ok (by simp) _
  | strict =>
    cases extra with
    | nil => exact .ok (by simp) _
    | cons member rest => exact .issue (by simp) _

/-- Nothing is undeclared if and only if every name of the object is that of a field. -/
lemma undeclared_eq_nil_iff {fields : List (Field Validator)} {members : Entries Json} :
    undeclared fields members = [] ↔ ∀ name ∈ members.keys, name ∈ fields.map Field.name := by
  simp [undeclared, List.filter_eq_nil_iff, Entries.keys]

/-- An object validator decides whether the value is an object that satisfies the conditions of all
fields and, in the strict mode, has only members that are declared. -/
lemma decides_object {fields : List β} {toField : β → Field Validator} {mode : Mode}
    {P : Entries Json → β → Prop}
    (h : ∀ members, value = .object members →
      ∀ f ∈ fields, FieldDecides registry members (P members f) (toField f)) :
    Decides
      (∃ members, value = .object members ∧ (∀ f ∈ fields, P members f) ∧
        (mode = .strict → ∀ name ∈ Entries.keys members, ∃ f ∈ fields, (toField f).name = name))
      ((object (fields.map toField) mode).parseFrom registry trail value) := by
  cases value with
  | object members =>
    have hfields := decides_parseFields (h members rfl) []
    rw [parseFrom]
    generalize parseFields registry (fields.map toField) members [] = outcome at hfields
    cases hfields with
    | ok hP declared =>
      refine (decides_closeObject mode _ declared).congr ?_
      rw [undeclared_eq_nil_iff]
      constructor
      · intro hclosed
        exact ⟨members, rfl, hP, fun hmode name hname => by simpa using hclosed hmode name hname⟩
      · rintro ⟨_, hmembers, -, hclosed⟩ hmode name hname
        cases hmembers
        simpa using hclosed hmode name hname
    | issue hP i => exact .issue (by simp [hP]) _
  | _ =>
    rw [parseFrom]
    · exact .issue (by simp) _
    · simp

/-- A validator of open objects decides whether the value is an object. -/
lemma decides_openObject :
    Decides (∃ members, value = .object members)
      (openObject.parseFrom registry trail value) := by
  have hdecides := @decides_object (Field Validator) registry trail value [] id .passthrough
    (fun _ _ => True) (by simp)
  exact hdecides.congr (by simp)

end TypedClient.Validator
