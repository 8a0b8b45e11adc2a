import Mathlib.Logic.Relation
import TypedClient.Proofs.Entries
import TypedClient.Proofs.Validator.Parse
import TypedClient.Proofs.Validator.References

/-!
# Questions to validators

To parse a value, and to tell whether a member may be absent, a validator puts questions of the same
kind to other validators (`Validator.Subquestion`).  On a registry in which references lead in a
circle this may go on forever.  A question *ends* if every chain of questions that starts with it is
finite, that is, if it is accessible in this relation.

A question that ends gets an answer, and in a registry that is closed the answer is not that a name
is missing (`Validator.Question.answered_of_acc`).
-/

namespace TypedClient

open Relation

/-- Every reference in a registered validator is to a registered name. -/
def Registry.Closed (registry : Registry) : Prop :=
  ∀ name target, registry.get? name = some target →
    ∀ r ∈ target.references, r.1 ∈ Entries.keys registry

namespace Validator

/-! ## Questions -/

/-- A question to a validator. -/
inductive Question where
  /-- What it makes of a value. -/
  | value (v : Validator) (value : Json)
  /-- Whether it allows absence. -/
  | absence (v : Validator)

namespace Question

/-- The references in the validator that is asked. -/
def references : Question → List (String × Bool)
  | value v _ => v.references
  | absence v => v.references

/-- The same question to another validator. -/
def putTo : Question → Validator → Question
  | value _ x, other => value other x
  | absence _, other => absence other

/-- The validator that a question is put to last is the one that is asked. -/
@[simp] lemma putTo_putTo (q : Question) (v w : Validator) : (q.putTo v).putTo w = q.putTo w := by
  cases q <;> rfl

end Question

/-- The questions that a validator may put to others when it is asked.  Which of them it does put
depends on the answers: a union stops at the first member that accepts the value, and an object and
an array at the first part that is refused. -/
inductive Subquestion (registry : Registry) : Question → Question → Prop where
  | nullable (inner : Validator) {value : Json} (h : value ≠ .null) :
    Subquestion registry (.value inner value) (.value (.nullable inner) value)
  | optional (inner : Validator) (value : Json) :
    Subquestion registry (.value inner value) (.value (.optional inner) value)
  | member {m : Validator} {members : List Validator} (hm : m ∈ members) (value : Json) :
    Subquestion registry (.value m value) (.value (.union members) value)
  | item (items : Validator) {v : Json} {values : List Json} (hv : v ∈ values) :
    Subquestion registry (.value items v) (.value (.array items) (.array values))
  | present {f : Field Validator} {fields : List (Field Validator)} (mode : Mode)
    {members : Entries Json} {v : Json} (hf : f ∈ fields) (hv : members.get? f.name = some v) :
    Subquestion registry (.value f.body v) (.value (.object fields mode) (.object members))
  | absent {f : Field Validator} {fields : List (Field Validator)} (mode : Mode)
    {members : Entries Json} (hf : f ∈ fields) (hv : members.get? f.name = none) :
    Subquestion registry (.absence f.body) (.value (.object fields mode) (.object members))
  | target {name : String} {target : Validator} (deferred : Bool) (value : Json)
    (hname : registry.get? name = some target) :
    Subquestion registry (.value target value) (.value (.reference name deferred) value)
  | absenceNullable (inner : Validator) :
    Subquestion registry (.absence inner) (.absence (.nullable inner))
  | absenceMember {m : Validator} {members : List Validator} (hm : m ∈ members) :
    Subquestion registry (.absence m) (.absence (.union members))
  | absenceTarget {name : String} {target : Validator} (deferred : Bool)
    (hname : registry.get? name = some target) (htarget : target.isReference = false) :
    Subquestion registry (.absence target) (.absence (.reference name deferred))

variable {α β : Type} {registry : Registry} {trail : List String} {value : Json}

/-! ## Answers -/

/-- An application ends in a value, or in an issue that is not about a name that is missing. -/
inductive Regular : Except Refusal α → Prop where
  | ok (result : α) : Regular (.ok result)
  | issue (i : Issue) (h : ∀ name, i.complaint ≠ .unknownReference name) :
    Regular (.error (.issue i))

/-- To change the value of an application keeps it regular. -/
lemma Regular.map {outcome : Except Refusal α} (f : α → β) (h : Regular outcome) :
    Regular (outcome.map f) := by
  cases h with
  | ok result => exact .ok _
  | issue i hi => exact .issue i hi

/-- To refuse a value because of one of its parts is regular, if the part is refused regularly. -/
lemma Regular.under {refusal : Refusal} (key : String)
    (h : Regular (.error refusal : Except Refusal α)) :
    Regular (.error (refusal.under key) : Except Refusal β) := by
  cases h with
  | issue i hi => exact .issue _ hi

/-- The test for a type is regular. -/
lemma regular_expectType (expected : String) : Regular (expectType expected value) := by
  unfold expectType
  split
  · exact .ok _
  · exact .issue _ (by simp)

/-- The items of an array are parsed regularly, if each of them is. -/
lemma regular_parseItems {items : Validator} {values : List Json}
    (h : ∀ v ∈ values, Regular (items.parseFrom registry [] v)) (index : Nat) :
    Regular (parseItems registry items index values) := by
  induction values generalizing index with
  | nil =>
    rw [parseItems]
    exact .ok _
  | cons v rest ih =>
    rw [List.forall_mem_cons] at h
    obtain ⟨hv, hrest⟩ := h
    rw [parseItems]
    generalize items.parseFrom registry [] v = outcome at hv
    cases outcome with
    | ok parsed => exact (ih hrest _).map _
    | error refusal => exact hv.under _

/-- A list of validators is applied regularly, if each of them is. -/
lemma regular_parseFirst {members : List Validator}
    (h : ∀ m ∈ members, Regular (m.parseFrom registry trail value)) :
    Regular (parseFirst registry trail members value) := by
  induction members with
  | nil =>
    rw [parseFirst]
    exact .issue _ (by simp)
  | cons m rest ih =>
    rw [List.forall_mem_cons] at h
    obtain ⟨hm, hrest⟩ := h
    rw [parseFirst]
    generalize m.parseFrom registry trail value = outcome at hm
    cases hm with
    | ok parsed => exact .ok _
    | issue i hi => exact ih hrest

/-- The declared members of an object are parsed regularly, if each of them is, and if it is known
whether those that are absent may be. -/
lemma regular_parseFields {fields : List (Field Validator)} {members : Entries Json}
    (hpresent : ∀ f ∈ fields, ∀ v, members.get? f.name = some v →
      Regular (f.body.parseFrom registry [] v))
    (habsent : ∀ f ∈ fields, members.get? f.name = none →
      f.body.acceptsMissing registry [] ≠ none) (out : Entries Json) :
    Regular (parseFields registry fields members out) := by
  induction fields generalizing out with
  | nil =>
    rw [parseFields]
    exact .ok _
  | cons f rest ih =>
    rw [List.forall_mem_cons] at hpresent habsent
    have hrest := ih hpresent.2 habsent.2
    rw [parseFields]
    split
    · next v hv =>
      have hf := hpresent.1 v hv
      generalize f.body.parseFrom registry [] v = outcome at hf
      cases outcome with
      | ok parsed => exact hrest _
      | error refusal => exact hf.under _
    · next hv =>
      have hf := habsent.1 hv
      generalize f.body.acceptsMissing registry [] = answer at hf
      cases answer with
      | none => exact absurd rfl hf
      | some allowed =>
        cases allowed with
        | true => exact hrest _
        | false => exact .issue _ (by simp)

/-- What an object validator does with undeclared members is regular. -/
lemma regular_closeObject (mode : Mode) (extra declared : Entries Json) :
    Regular (closeObject mode extra declared) := by
  cases mode with
  | strip => exact .ok _
  | passthrough => exact .ok _
  | strict =>
    rw [closeObject]
    split
    · exact .ok _
    · exact .issue _ (by simp)

/-- It is known whether a list of validators allows absence, if it is known of each of them. -/
lemma someAcceptsMissing_ne_none {members : List Validator}
    (h : ∀ m ∈ members, m.acceptsMissing registry trail ≠ none) :
    someAcceptsMissing registry trail members ≠ none := by
  induction members with
  | nil => simp [someAcceptsMissing]
  | cons m rest ih =>
    rw [List.forall_mem_cons] at h
    obtain ⟨hm, hrest⟩ := h
    rw [someAcceptsMissing]
    generalize m.acceptsMissing registry trail = answer at hm
    cases answer with
    | none => exact absurd rfl hm
    | some allowed =>
      cases allowed with
      | true => simp
      | false => exact ih hrest

namespace Question

/-- A question gets an answer: the value, or an issue that is not about a name that is missing; or
whether absence is allowed. -/
def Answered (registry : Registry) (trail : List String) : Question → Prop
  | .value v value => Regular (v.parseFrom registry trail value)
  | .absence v => v.acceptsMissing registry trail ≠ none

/-- The names of a trail have come up with the same question: each leads to a validator, and the
question has come up when it was put to this validator. -/
def OnTrail (registry : Registry) (trail : List String) (q : Question) : Prop :=
  ∀ name ∈ trail, ∃ target,
    (∀ deferred, Subquestion registry (q.putTo target) (q.putTo (.reference name deferred))) ∧
      ReflTransGen (Subquestion registry) q (q.putTo target)

variable {q q' : Question}

/-- Nothing has come up in the beginning. -/
lemma onTrail_nil : q.OnTrail registry [] := by
  intro name hname
  simp at hname

/-- The trail of a question is one of every subquestion about the same value. -/
lemma OnTrail.of_subquestion (h : q.OnTrail registry trail) (hsub : Subquestion registry q' q)
    (hputTo : ∀ v, q'.putTo v = q.putTo v) : q'.OnTrail registry trail := by
  intro name hname
  obtain ⟨target, htarget, hleads⟩ := h name hname
  simp only [hputTo]
  exact ⟨target, htarget, .head hsub hleads⟩

/-- A question to a reference goes on to the target with a longer trail. -/
lemma OnTrail.cons {v : Validator} {name : String} {target : Validator}
    (h : (q.putTo v).OnTrail registry trail)
    (hsub : Subquestion registry (q.putTo target) (q.putTo v))
    (htarget : ∀ deferred,
      Subquestion registry (q.putTo target) (q.putTo (.reference name deferred))) :
    (q.putTo target).OnTrail registry (name :: trail) := by
  intro other hother
  rcases List.mem_cons.1 hother with rfl | hother
  · simp only [putTo_putTo]
    exact ⟨target, htarget, .refl⟩
  · exact h.of_subquestion hsub (by simp) other hother

/-- A question that ends does not come up again. -/
lemma not_transGen_self_of_acc (h : Acc (Subquestion registry) q) :
    ¬TransGen (Subquestion registry) q q := by
  have hgen := h.transGen
  induction hgen with
  | intro q _ ih => exact fun hself => ih q hself h hself

/-- A name is not on the trail of a question to a reference to it, if the question ends. -/
lemma OnTrail.not_mem {name : String} {deferred : Bool}
    (h : (q.putTo (.reference name deferred)).OnTrail registry trail)
    (hacc : Acc (Subquestion registry) (q.putTo (.reference name deferred))) : name ∉ trail := by
  intro hname
  obtain ⟨target, htarget, hleads⟩ := h name hname
  simp only [putTo_putTo] at htarget hleads
  exact not_transGen_self_of_acc hacc (.tail' hleads (htarget deferred))

/-- The references in the validators that are asked further are registered. -/
lemma mem_keys_of_subquestion (hclosed : registry.Closed) (hsub : Subquestion registry q' q)
    (h : ∀ r ∈ q.references, r.1 ∈ Entries.keys registry) :
    ∀ r ∈ q'.references, r.1 ∈ Entries.keys registry := by
  intro r hr
  cases hsub with
  | nullable inner _ => exact h r hr
  | optional inner value => exact h r hr
  | item items hv => exact h r hr
  | absenceNullable inner => exact h r hr
  | target deferred value hname => exact hclosed _ _ hname r hr
  | absenceTarget deferred hname _ => exact hclosed _ _ hname r hr
  | member hm _ | absenceMember hm =>
    refine h r ?_
    rw [references, Validator.references, referencesOfMembers_eq_flatMap]
    exact List.mem_flatMap.2 ⟨_, hm, hr⟩
  | present mode hf _ | absent mode hf _ =>
    refine h r ?_
    rw [references, Validator.references, referencesOfFields_eq_flatMap]
    exact List.mem_flatMap.2 ⟨_, hf, hr⟩

/-- A question about a value gets an answer if the questions that come up do. -/
lemma answered_value {v : Validator} (hacc : Acc (Subquestion registry) (.value v value))
    (htrail : (Question.value v value).OnTrail registry trail)
    (hrefs : ∀ r ∈ v.references, r.1 ∈ Entries.keys registry)
    (hsub : ∀ q', Subquestion registry q' (.value v value) → ∀ trail, q'.OnTrail registry trail →
      q'.Answered registry trail) :
    Regular (v.parseFrom registry trail value) := by
  cases v with
  | string | number | boolean =>
    rw [parseFrom]
    exact regular_expectType _
  | any =>
    rw [parseFrom]
    exact .ok _
  | nullable inner =>
    by_cases hnull : value = .null
    · subst hnull
      rw [parseFrom]
      exact .ok _
    · have h : Subquestion registry (.value inner value) _ := .nullable inner hnull
      rw [parseFrom]
      · exact hsub _ h _ (htrail.of_subquestion h fun _ => rfl)
      · exact hnull
  | optional inner =>
    have h : Subquestion registry (.value inner value) _ := .optional inner value
    rw [parseFrom]
    exact hsub _ h _ (htrail.of_subquestion h fun _ => rfl)
  | union members =>
    rw [parseFrom]
    refine regular_parseFirst fun m hm => ?_
    have h : Subquestion registry (.value m value) _ := .member hm value
    exact hsub _ h _ (htrail.of_subquestion h fun _ => rfl)
  | array items =>
    cases value with
    | array values =>
      rw [parseFrom]
      have h : ∀ v ∈ values, Regular (items.parseFrom registry [] v) :=
        fun v hv => hsub _ (.item items hv) [] onTrail_nil
      exact (regular_parseItems h 0).map _
    | _ =>
      rw [parseFrom]
      · exact .issue _ (by simp)
      · simp
  | object fields mode =>
    cases value with
    | object members =>
      have hpresent : ∀ f ∈ fields, ∀ v, Entries.get? members f.name = some v →
          Regular (f.body.parseFrom registry [] v) :=
        fun f hf v hv => hsub _ (.present mode hf hv) [] onTrail_nil
      have habsent : ∀ f ∈ fields, Entries.get? members f.name = none →
          f.body.acceptsMissing registry [] ≠ none :=
        fun f hf hv => hsub _ (.absent mode hf hv) [] onTrail_nil
      have h := regular_parseFields hpresent habsent []
      rw [parseFrom]
      generalize parseFields registry fields members [] = outcome at h
      cases h with
      | ok declared => exact regular_closeObject _ _ _
      | issue i hi => exact .issue i hi
    | _ =>
      rw [parseFrom]
      · exact .issue _ (by simp)
      · simp
  | reference name deferred =>
    have hname : name ∈ Entries.keys registry :=
      hrefs (name, deferred) (by simp [Validator.references])
    obtain ⟨target, htarget⟩ := Entries.exists_get?_iff.2 hname
    rw [parseFrom_reference (htrail.not_mem (q := .value .any value) hacc) htarget]
    exact hsub _ (.target deferred value htarget) _ (OnTrail.cons (q := .value .any value) htrail
      (.target deferred value htarget) fun _ => .target _ value htarget)

/-- A question about absence gets an answer if the questions that come up do. -/
lemma answered_absence {v : Validator} (hacc : Acc (Subquestion registry) (.absence v))
    (htrail : (Question.absence v).OnTrail registry trail)
    (hsub : ∀ q', Subquestion registry q' (.absence v) → ∀ trail, q'.OnTrail registry trail →
      q'.Answered registry trail) :
    v.acceptsMissing registry trail ≠ none := by
  cases v with
  | nullable inner =>
    have h : Subquestion registry (.absence inner) _ := .absenceNullable inner
    rw [acceptsMissing]
    exact hsub _ h _ (htrail.of_subquestion h fun _ => rfl)
  | union members =>
    rw [acceptsMissing]
    refine someAcceptsMissing_ne_none fun m hm => ?_
    have h : Subquestion registry (.absence m) _ := .absenceMember hm
    exact hsub _ h _ (htrail.of_subquestion h fun _ => rfl)
  | reference name deferred =>
    have hfresh : name ∉ trail := htrail.not_mem (q := .absence .any) hacc
    rw [acceptsMissing, dif_neg hfresh]
    split
    · simp
    · next target htarget =>
      split
      · simp
      · next hreference =>
        have h : ∀ deferred, Subquestion registry (.absence target)
            (.absence (.reference name deferred)) :=
          fun deferred => .absenceTarget deferred htarget (by simpa using hreference)
        exact hsub _ (h deferred) _ (OnTrail.cons (q := .absence .any) htrail (h deferred) h)
  | _ =>
    rw [acceptsMissing]
    · simp
    all_goals simp

/-- A question that ends gets an answer, if the registry is closed. -/
lemma answered_of_acc (hclosed : registry.Closed) (hacc : Acc (Subquestion registry) q)
    (hrefs : ∀ r ∈ q.references, r.1 ∈ Entries.keys registry)
    (htrail : q.OnTrail registry trail) : q.Answered registry trail := by
  induction hacc generalizing trail with
  | intro q hq ih =>
    have hacc : Acc (Subquestion registry) q := .intro q hq
    have hsub : ∀ q', Subquestion registry q' q → ∀ trail, q'.OnTrail registry trail →
        q'.Answered registry trail :=
      fun q' h _ => ih q' h (mem_keys_of_subquestion hclosed h hrefs)
    cases q with
    | value v value => exact answered_value hacc htrail hrefs hsub
    | absence v => exact answered_absence hacc htrail hsub

end Question

end Validator

end TypedClient
