import TypedClient.Proofs.Validator.Acceptance
import TypedClient.Proofs.Validator.Declaration

/-!
# More named schemas accept less

A reference that leads to nothing stands for anything.  So when schemas are added under new names,
references that led to nothing may come to say something, and all others say what they said before:
a schema admits no more than without the new ones (`Schema.Admits.of_within`), and the compiled
declarations accept no more (`Declaration.accepted_of_within`).  A property that may be absent with
the new schemas may be absent without them, for the same reason
(`Schema.Unconstrained.of_within`).
-/

namespace TypedClient

namespace Schema

variable {schemas more : Entries Schema}

/-- A pointer that leads to nothing among more schemas leads to nothing among fewer. -/
lemma resolve?_eq_none_of_within (h : schemas.Within more) {pointer : String}
    (hnone : resolve? more pointer = none) : resolve? schemas pointer = none := by
  unfold resolve? at hnone ⊢
  cases hname : Pointer.schemaName? pointer with
  | none => rfl
  | some name =>
    rw [hname] at hnone
    exact h.get?_eq_none hnone

/-- A pointer that leads to a schema among more schemas leads to the same one among fewer, or to
nothing. -/
lemma resolve?_of_within (h : schemas.Within more) {pointer : String} {s : Schema}
    (hs : resolve? more pointer = some s) :
    resolve? schemas pointer = none ∨ resolve? schemas pointer = some s := by
  unfold resolve? at hs ⊢
  cases hname : Pointer.schemaName? pointer with
  | none => exact Or.inl rfl
  | some name =>
    rw [hname, Option.bind_some] at hs
    rw [Option.bind_some]
    cases hget : schemas.get? name with
    | none => exact Or.inl rfl
    | some t => exact Or.inr ((h name t hget).symm.trans hs)

/-- A part that demands nothing among more schemas demands nothing among fewer. -/
lemma Unconstrained.of_within (h : schemas.Within more) {s : Schema}
    (hs : Unconstrained more s) : Unconstrained schemas s := by
  induction hs with
  | unknown n type => exact .unknown n type
  | unresolved n hnone => exact .unresolved n (resolve?_eq_none_of_within h hnone)
  | reference n hsome hparts =>
    rcases resolve?_of_within h hsome with hnone | hsome
    · exact .unresolved n hnone
    · exact .reference n hsome hparts
  | union n hm _ ih => exact .union n hm ih

mutual

/-- What a named schema admits among more schemas it admits among fewer. -/
lemma Admits.of_within (h : schemas.Within more) {s : Schema} {v : Json} :
    Admits more s v → Admits schemas s v
  | .null hnull => .null hnull
  | .object n hpresent habsent hclosed =>
    .object n (fun p hp v hv => (hpresent p hp v hv).of_within h)
      (fun p hp hv => (habsent p hp hv).imp_right fun hpart => hpart.of_within h) hclosed
  | .array n hitems => .array n fun v hv => (hitems v hv).of_within h
  | .partless hparts => .partless hparts

/-- What a part admits among more schemas it admits among fewer. -/
lemma PartAdmits.of_within (h : schemas.Within more) {s : Schema} {v : Json} :
    PartAdmits more s v → PartAdmits schemas s v
  | .null hnull => .null hnull
  | .reference n hsome hadmits =>
    -- Among fewer schemas the reference may lead to nothing, and then it admits anything.
    match resolve?_of_within h hsome with
    | Or.inl hnone => .unresolved n hnone
    | Or.inr hsame => .reference n hsame (hadmits.of_within h)
  | .unresolved n hnone => .unresolved n (resolve?_eq_none_of_within h hnone)
  | .object n properties required additional members =>
    .object n properties required additional members
  | .freeObject n required additional members => .freeObject n required additional members
  | .array n hitems => .array n fun v hv => (hitems v hv).of_within h
  | .freeArray n values => .freeArray n values
  | .primitive n hcontains => .primitive n hcontains
  | .union n hm hadmits => .union n hm (hadmits.of_within h)
  | .unknown n type v => .unknown n type v

end

end Schema

namespace Declaration

variable {schemas more : Entries Schema}

/-- If schemas are added under new names, both lists have lenient declarations, and whatever the
declaration of a name accepts with the new schemas, the one of the same name accepts without them.
So a value is refused with the new schemas if it is refused without them. -/
theorem more_schemas_accept_less (h : schemas.Within more) :
    ∃ declarations declarations',
      ofSchemas false schemas (.ofSchemas schemas) = .ok declarations ∧
      ofSchemas false more (.ofSchemas more) = .ok declarations' ∧
      ∀ name ∈ schemas.keys,
        ∃ d ∈ declarations, ∃ d' ∈ declarations', d.name = name ∧ d'.name = name ∧
          ∀ v,
            ((∃ w, d'.validator.parse (.ofDeclarations declarations') v = .ok w) →
              ∃ w, d.validator.parse (.ofDeclarations declarations) v = .ok w) ∧
            ((∃ i, d.validator.parse (.ofDeclarations declarations) v = .error (.issue i)) →
              ∃ i, d'.validator.parse (.ofDeclarations declarations') v = .error (.issue i)) := by
  refine ⟨_, _, ofSchemas_eq_ok_iff.2 ⟨rfl, by simp⟩, ofSchemas_eq_ok_iff.2 ⟨rfl, by simp⟩, ?_⟩
  intro name hname
  obtain ⟨s, hs⟩ := Entries.exists_get?_iff.2 hname
  obtain ⟨d, hd, hd', -, hdecides⟩ := exists_compiled_decides hs
  obtain ⟨e, he, he', -, hdecides'⟩ := exists_compiled_decides (h name s hs)
  refine ⟨d, hd, e, he, hd', he', fun v => ?_⟩
  rw [(hdecides v).exists_ok_iff, (hdecides v).exists_issue_iff, (hdecides' v).exists_ok_iff,
    (hdecides' v).exists_issue_iff]
  have hadmits : s.Admits more v → s.Admits schemas v := Schema.Admits.of_within h
  exact ⟨hadmits, mt hadmits⟩

/-- A schema with a reference to a name that no schema has. -/
def danglingSchemas : Entries Schema :=
  [("Pet", .object {} [("owner", .reference {} "#/components/schemas/Person")] ["owner"] none)]

/-- With the schema that was missing, the pets that are accepted were accepted before. -/
theorem danglingSchemas_accept_less :
    danglingSchemas.Within (danglingSchemas ++ [("Person", .object {} [] [] (some false))]) ∧
    ∃ declarations declarations',
      ofSchemas false danglingSchemas (.ofSchemas danglingSchemas) = .ok declarations ∧
      ofSchemas false (danglingSchemas ++ [("Person", .object {} [] [] (some false))])
        (.ofSchemas (danglingSchemas ++ [("Person", .object {} [] [] (some false))])) =
        .ok declarations' ∧
      ∀ name ∈ danglingSchemas.keys,
        ∃ d ∈ declarations, ∃ d' ∈ declarations', d.name = name ∧ d'.name = name ∧
          ∀ v,
            ((∃ w, d'.validator.parse (.ofDeclarations declarations') v = .ok w) →
              ∃ w, d.validator.parse (.ofDeclarations declarations) v = .ok w) ∧
            ((∃ i, d.validator.parse (.ofDeclarations declarations) v = .error (.issue i)) →
              ∃ i, d'.validator.parse (.ofDeclarations declarations') v = .error (.issue i)) :=
  ⟨Entries.within_append _ _, more_schemas_accept_less (Entries.within_append _ _)⟩

end Declaration

end TypedClient
