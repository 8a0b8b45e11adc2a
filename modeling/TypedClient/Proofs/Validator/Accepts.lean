import TypedClient.Proofs.Validator.Parse

/-!
# Acceptance, part by part

What a validator accepts depends on what its parts accept (`Validator.Accepts`).  The lemmas say
how, for any registry.  References that lead in a circle do no harm to most of them, because a value
is accepted only where all the applications it takes have ended.  The exception is a union: a member
without end hides those behind it, so a union accepts what some member accepts only if its own
application ends (`Validator.accepts_union_iff`).
-/

namespace TypedClient.Validator

/-- The application of a validator ends in a value. -/
def Accepts (registry : Registry) (v : Validator) (value : Json) : Prop :=
  ∃ w, v.parse registry value = .ok w

/-- The application of a validator ends in an issue. -/
def Refuses (registry : Registry) (v : Validator) (value : Json) : Prop :=
  ∃ i, v.parse registry value = .error (.issue i)

variable {registry : Registry} {v : Validator} {value : Json}

/-- An application that decides a condition ends. -/
lemma Decides.accepts_or_refuses {P : Prop} (h : Decides P (v.parse registry value)) :
    v.Accepts registry value ∨ v.Refuses registry value := by
  by_cases hP : P
  · exact Or.inl (h.exists_ok_iff.2 hP)
  · exact Or.inr (h.exists_issue_iff.2 hP)

/-- To accept `null` as well adds that value to those that are accepted. -/
lemma accepts_orNull_iff {notes : Notes} :
    (Schema.orNull notes v).Accepts registry value ↔
      notes.nullable = true ∧ value = .null ∨ v.Accepts registry value := by
  by_cases hnull : notes.nullable = true ∧ value = .null
  · obtain ⟨hnullable, rfl⟩ := hnull
    exact iff_of_true ⟨.null, parseFrom_orNull_null hnullable v⟩ (Or.inl ⟨hnullable, rfl⟩)
  · rw [Accepts, parse, parseFrom_orNull hnull, or_iff_right hnull, Accepts, parse]

/-! ## Arrays -/

/-- The items of an array are parsed if and only if each of them is accepted. -/
lemma exists_parseItems_iff {items : Validator} {values : List Json} (index : Nat) :
    (∃ out, parseItems registry items index values = .ok out) ↔
      ∀ w ∈ values, items.Accepts registry w := by
  induction values generalizing index with
  | nil =>
    rw [parseItems]
    simp
  | cons first rest ih =>
    rw [parseItems, List.forall_mem_cons, ← ih (index + 1), Accepts, parse]
    cases items.parseFrom registry [] first with
    | error refusal => simp
    | ok parsed =>
      cases parseItems registry items (index + 1) rest with
      | error refusal => simp [Except.map]
      | ok out => simp [Except.map]

/-- An array validator accepts the arrays whose items it accepts. -/
lemma accepts_array_iff {items : Validator} :
    (array items).Accepts registry value ↔
      ∃ values, value = .array values ∧ ∀ w ∈ values, items.Accepts registry w := by
  cases value with
  | array values =>
    have hmap : (∃ w, (parseItems registry items 0 values).map Json.array = .ok w) ↔
        ∃ out, parseItems registry items 0 values = .ok out := by
      cases parseItems registry items 0 values <;> simp [Except.map]
    rw [Accepts, parse, parseFrom, hmap, exists_parseItems_iff]
    simp
  | _ =>
    refine iff_of_false ?_ (by simp)
    rintro ⟨w, hw⟩
    rw [parse, parseFrom] at hw
    · cases hw
    · simp

/-! ## Unions -/

/-- What a list of validators accepts, some member of it accepts. -/
lemma exists_accepts_of_parseFirst {members : List Validator} {w : Json}
    (h : parseFirst registry [] members value = .ok w) :
    ∃ m ∈ members, m.Accepts registry value := by
  induction members with
  | nil =>
    rw [parseFirst] at h
    cases h
  | cons m rest ih =>
    rw [parseFirst] at h
    cases hm : m.parseFrom registry [] value with
    | ok parsed => exact ⟨m, List.mem_cons_self, parsed, hm⟩
    | error refusal =>
      rw [hm] at h
      cases refusal with
      | endless => cases h
      | issue i =>
        obtain ⟨m', hm', haccepts⟩ := ih h
        exact ⟨m', List.mem_cons_of_mem _ hm', haccepts⟩

/-- What some member of a list of validators accepts, the list does not refuse. -/
lemma not_issue_of_parseFirst {members : List Validator} {m : Validator} (hm : m ∈ members)
    (haccepts : m.Accepts registry value) (i : Issue) :
    parseFirst registry [] members value ≠ .error (.issue i) := by
  induction members with
  | nil => cases hm
  | cons first rest ih =>
    rw [parseFirst]
    cases hfirst : first.parseFrom registry [] value with
    | ok parsed => simp
    | error refusal =>
      cases refusal with
      | endless => simp
      | issue _ =>
        rcases List.mem_cons.1 hm with rfl | hm
        · obtain ⟨w, hw⟩ := haccepts
          cases hfirst.symm.trans hw
        · exact ih hm

/-- A union whose application ends accepts what some member accepts. -/
lemma accepts_union_iff {members : List Validator}
    (hends : (union members).Accepts registry value ∨ (union members).Refuses registry value) :
    (union members).Accepts registry value ↔ ∃ m ∈ members, m.Accepts registry value := by
  constructor
  · rintro ⟨w, hw⟩
    rw [parse, parseFrom] at hw
    exact exists_accepts_of_parseFirst hw
  · rintro ⟨m, hm, haccepts⟩
    refine hends.resolve_right ?_
    rintro ⟨i, hi⟩
    rw [parse, parseFrom] at hi
    exact not_issue_of_parseFirst hm haccepts i hi

/-! ## Objects -/

/-- A field accepts an object: its validator accepts the member, or allows that there is none. -/
def FieldAccepts (registry : Registry) (members : Entries Json) (field : Field Validator) : Prop :=
  (∀ value, members.get? field.name = some value → field.body.Accepts registry value) ∧
    (members.get? field.name = none → field.body.mayBeAbsent registry = some true)

/-- The declared members of an object are parsed if and only if each field accepts it. -/
lemma exists_parseFields_iff {fields : List (Field Validator)} {members : Entries Json}
    (out : Entries Json) :
    (∃ declared, parseFields registry fields members out = .ok declared) ↔
      ∀ field ∈ fields, FieldAccepts registry members field := by
  induction fields generalizing out with
  | nil =>
    rw [parseFields]
    simp
  | cons field rest ih =>
    rw [parseFields, List.forall_mem_cons, FieldAccepts]
    split
    · next value hvalue =>
      simp only [hvalue, Option.some_inj, forall_eq', reduceCtorEq, false_implies, and_true,
        Accepts, parse]
      cases field.body.parseFrom registry [] value with
      | error refusal => simp
      | ok parsed => simpa using ih _
    · next hnone =>
      simp only [hnone, reduceCtorEq, false_implies, implies_true, true_and, forall_const,
        mayBeAbsent]
      cases field.body.acceptsMissing registry [] with
      | none => simp
      | some allowed =>
        cases allowed with
        | false => simp
        | true => simpa using ih out

/-- An object validator that strips accepts the objects that each of its fields accepts. -/
lemma accepts_strip_iff {fields : List (Field Validator)} {members : Entries Json} :
    (object fields .strip).Accepts registry (.object members) ↔
      ∀ field ∈ fields, FieldAccepts registry members field := by
  rw [← exists_parseFields_iff [], Accepts, parse, parseFrom]
  cases parseFields registry fields members [] with
  | error refusal => simp
  | ok declared => simp [closeObject]

end TypedClient.Validator
