import Mathlib.Data.List.Basic
import Mathlib.Tactic.Lemma
import TypedClient.Validator.Parse

/-!
# Validators that agree part by part

Two applications come out the same, with the same value or the same refusal, if the applications
that they consist of do.  There is a lemma for each list that an application runs through: the
validators of which the first that accepts decides, the items of an array, and the fields of an
object.  The last one also tells which members of an object matter to a list of fields: those that
are found under the names of the fields.
-/

namespace TypedClient.Validator

variable {β : Type} {registry registry' : Registry} {trail : List String} {value : Json}

/-- Two lists of validators that allow absence in the same places allow it together. -/
lemma someAcceptsMissing_congr (toValidator toValidator' : β → Validator) {members : List β}
    (h : ∀ m ∈ members, (toValidator' m).acceptsMissing registry' trail =
      (toValidator m).acceptsMissing registry trail) :
    someAcceptsMissing registry' trail (members.map toValidator') =
      someAcceptsMissing registry trail (members.map toValidator) := by
  induction members with
  | nil => rw [List.map_nil, List.map_nil, someAcceptsMissing, someAcceptsMissing]
  | cons m rest ih =>
    rw [List.forall_mem_cons] at h
    obtain ⟨hm, hrest⟩ := h
    rw [List.map_cons, List.map_cons, someAcceptsMissing, someAcceptsMissing, hm, ih hrest]

/-- Two lists of validators that make the same of a value, one by one, make the same of it
together. -/
lemma parseFirst_congr (toValidator toValidator' : β → Validator) {members : List β}
    (h : ∀ m ∈ members, (toValidator' m).parseFrom registry' trail value =
      (toValidator m).parseFrom registry trail value) :
    parseFirst registry' trail (members.map toValidator') value =
      parseFirst registry trail (members.map toValidator) value := by
  induction members with
  | nil => rw [List.map_nil, List.map_nil, parseFirst, parseFirst]
  | cons m rest ih =>
    rw [List.forall_mem_cons] at h
    obtain ⟨hm, hrest⟩ := h
    rw [List.map_cons, List.map_cons, parseFirst, parseFirst, hm, ih hrest]

/-- Two validators that make the same of each item make the same of the items. -/
lemma parseItems_congr {items items' : Validator} {values : List Json}
    (h : ∀ v ∈ values, items'.parseFrom registry' [] v = items.parseFrom registry [] v)
    (index : Nat) :
    parseItems registry' items' index values = parseItems registry items index values := by
  induction values generalizing index with
  | nil => rw [parseItems, parseItems]
  | cons v rest ih =>
    rw [List.forall_mem_cons] at h
    obtain ⟨hv, hrest⟩ := h
    rw [parseItems, parseItems, hv, ih hrest]

/-- Two lists of fields with the same names make the same of two objects, if under each of the names
the same is found in both, and the fields agree on it. -/
lemma parseFields_congr (registry registry' : Registry) (toField toField' : β → Field Validator)
    {fields : List β} {members members' : Entries Json}
    (hname : ∀ f ∈ fields, (toField' f).name = (toField f).name)
    (hget : ∀ f ∈ fields, members'.get? (toField f).name = members.get? (toField f).name)
    (hpresent : ∀ f ∈ fields, ∀ v, members.get? (toField f).name = some v →
      (toField' f).body.parseFrom registry' [] v = (toField f).body.parseFrom registry [] v)
    (habsent : ∀ f ∈ fields, members.get? (toField f).name = none →
      (toField' f).body.acceptsMissing registry' [] = (toField f).body.acceptsMissing registry [])
    (out : Entries Json) :
    parseFields registry' (fields.map toField') members' out =
      parseFields registry (fields.map toField) members out := by
  induction fields generalizing out with
  | nil => rw [List.map_nil, List.map_nil, parseFields, parseFields]
  | cons f rest ih =>
    rw [List.forall_mem_cons] at hname hget hpresent habsent
    have hrest := ih hname.2 hget.2 hpresent.2 habsent.2
    rw [List.map_cons, List.map_cons, parseFields, parseFields]
    rw [hname.1, hget.1]
    cases hmember : members.get? (toField f).name with
    | some v =>
      dsimp only
      rw [hpresent.1 v hmember]
      cases (toField f).body.parseFrom registry [] v with
      | ok parsed => exact hrest _
      | error refusal => rfl
    | none =>
      dsimp only
      rw [habsent.1 hmember]
      cases (toField f).body.acceptsMissing registry [] with
      | none => rfl
      | some allowed =>
        cases allowed with
        | true => exact hrest _
        | false => rfl

end TypedClient.Validator
