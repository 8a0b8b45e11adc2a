import TypedClient.Proofs.Induction
import TypedClient.Proofs.Validator.Parse

/-!
# Which validator decides

A validator that is put together from others leaves a value to one of them: a union to the first
member that accepts the value, a reference to the validator of its name.  In the end the value is
left to a validator that looks at the value itself (`Validator.Chooses`).

The names on the trail matter to none of this: they only tell apart what would never end
(`Validator.parse_eq_ok`, `Validator.parse_eq_issue`).
-/

namespace TypedClient.Validator

variable {registry : Registry} {trail trail' : List String} {value : Json}

/-! ## The trail -/

/-- The first member that accepts a value is the same for two trails, if what each member makes of
the value is. -/
lemma parseFirst_eq_of_forall {members : List Validator} {outcome : Except Refusal Json}
    (hmembers : ∀ m ∈ members, ∀ outcome, m.parseFrom registry trail value = outcome →
      outcome ≠ .error .endless → m.parseFrom registry trail' value = outcome)
    (h : parseFirst registry trail members value = outcome) (hends : outcome ≠ .error .endless) :
    parseFirst registry trail' members value = outcome := by
  induction members with
  | nil =>
    rw [parseFirst] at h ⊢
    exact h
  | cons m rest ih =>
    rw [List.forall_mem_cons] at hmembers
    rw [parseFirst] at h ⊢
    split at h
    · next parsed hparsed =>
      rw [hmembers.1 _ hparsed (by simp)]
      exact h
    · exact absurd h.symm hends
    · next issue hissue =>
      rw [hmembers.1 _ hissue (by simp)]
      exact ih hmembers.2 h

/-- An application that ends does so in the same way with fewer names on the trail.  The induction
is on the names that are not on the trail, and then on the validator. -/
lemma parseFrom_eq_of_subset {v : Validator} (hsub : trail' ⊆ trail) {outcome : Except Refusal Json}
    (h : v.parseFrom registry trail value = outcome) (hends : outcome ≠ .error .endless) :
    v.parseFrom registry trail' value = outcome := by
  induction hlength : (Registry.offTrail registry trail).length using Nat.strongRecOn
    generalizing trail trail' v outcome with
  | ind length ih =>
  subst hlength
  induction v using Validator.inductionOn generalizing outcome with
  | object fields mode _ =>
    cases value with
    | object members =>
      rw [parseFrom] at h ⊢
      exact h
    | _ => simpa [parseFrom] using h
  | array items _ =>
    cases value with
    | array values =>
      rw [parseFrom] at h ⊢
      exact h
    | _ => simpa [parseFrom] using h
  | union members ihmembers =>
    rw [parseFrom] at h ⊢
    exact parseFirst_eq_of_forall (fun m hm _ hm' => ihmembers m hm hm') h hends
  | nullable inner ihinner =>
    by_cases hnull : value = .null
    · subst hnull
      rw [parseFrom] at h ⊢
      exact h
    · rw [parseFrom] at h ⊢
      · exact ihinner h hends
      · exact hnull
      · exact hnull
  | optional inner ihinner =>
    rw [parseFrom] at h ⊢
    exact ihinner h hends
  | reference name deferred =>
    by_cases htrail : name ∈ trail
    · rw [parseFrom, dif_pos htrail] at h
      exact absurd h.symm hends
    · rw [parseFrom_reference_eq htrail] at h
      rw [parseFrom_reference_eq fun hmem => htrail (hsub hmem)]
      cases htarget : registry.get? name with
      | none =>
        rw [htarget] at h
        exact h
      | some target =>
        rw [htarget] at h
        have hless := Registry.length_offTrail_cons_lt registry
          (Entries.mem_keys_of_get? htarget) htrail
        exact ih _ hless (List.cons_subset_cons name hsub) h hends rfl
  | _ =>
    rw [parseFrom] at h ⊢
    exact h

/-- What a validator makes of a value under a trail, it makes of the value. -/
lemma parse_eq_ok {v : Validator} {w : Json} (h : v.parseFrom registry trail value = .ok w) :
    v.parse registry value = .ok w :=
  parseFrom_eq_of_subset (List.nil_subset trail) h (by simp)

/-- A value that is refused under a trail is refused. -/
lemma parse_eq_issue {v : Validator} {issue : Issue}
    (h : v.parseFrom registry trail value = .error (.issue issue)) :
    v.parse registry value = .error (.issue issue) :=
  parseFrom_eq_of_subset (List.nil_subset trail) h (by simp)

/-! ## The choice -/

/-- A validator leaves a value to another one, in one or more steps: a union to the member that is
the first to accept it, a reference to the validator of its name, and the validators that accept
`null` or absence as well to the one that they wrap. -/
inductive Chooses (registry : Registry) (value : Json) : Validator → Validator → Prop where
  | self {v : Validator} : Chooses registry value v v
  | nullable {inner u : Validator} (hnull : value ≠ .null) (h : Chooses registry value inner u) :
    Chooses registry value (.nullable inner) u
  | optional {inner u : Validator} (h : Chooses registry value inner u) :
    Chooses registry value (.optional inner) u
  | member {before after : List Validator} {m u : Validator}
    (hrefused : ∀ b ∈ before, ∃ issue, b.parse registry value = .error (.issue issue))
    (haccepted : ∃ w, m.parse registry value = .ok w) (h : Chooses registry value m u) :
    Chooses registry value (.union (before ++ m :: after)) u
  | target {name : String} {deferred : Bool} {target u : Validator}
    (hname : Entries.get? registry name = some target) (h : Chooses registry value target u) :
    Chooses registry value (.reference name deferred) u

/-- What comes of a list of validators comes of the first one that accepts the value. -/
lemma exists_first_of_parseFirst {members : List Validator} {w : Json}
    (h : parseFirst registry trail members value = .ok w) :
    ∃ before m after, members = before ++ m :: after ∧
      (∀ b ∈ before, ∃ issue, b.parse registry value = .error (.issue issue)) ∧
      m.parseFrom registry trail value = .ok w := by
  induction members with
  | nil =>
    rw [parseFirst] at h
    cases h
  | cons first rest ih =>
    rw [parseFirst] at h
    split at h
    · next parsed hparsed =>
      obtain rfl := Except.ok.inj h
      exact ⟨[], first, rest, rfl, by simp, hparsed⟩
    · cases h
    · next issue hissue =>
      obtain ⟨before, m, after, rfl, hbefore, hm⟩ := ih h
      exact ⟨first :: before, m, after, rfl,
        List.forall_mem_cons.2 ⟨⟨issue, parse_eq_issue hissue⟩, hbefore⟩, hm⟩

end TypedClient.Validator
