import TypedClient.Proofs.Blueprint.Acceptance
import TypedClient.Proofs.Blueprint.Strictness

/-!
# Required members are required

A member that a schema requires may be absent where nothing is demanded of it
(`Schema.Unconstrained`).  Of such a part the validator is one in which `any` occurs, here or in the
declaration that it refers to (`Schema.occurs_any_of_unconstrained`).  A strict blueprint has no
`any`, so an object that lacks a required member is refused (`Blueprint.requires_declared`).

What is required must be declared as a property as well: of a name that is only listed as required,
the validator knows nothing (`Blueprint.undeclared_not_required`).
-/

namespace TypedClient

open Validator (Occurs)

namespace Schema

variable {schemas : Entries Schema} {order : SchemaOrder}

/-- If a schema describes no parts, its validator is `any`. -/
lemma validator_eq_any {s : Schema} (h : s.describesParts = false) (current : String) :
    s.validator order current = .any := by
  cases s with
  | object n properties required additional => cases h
  | array n items => cases h
  | _ => rfl

/-- If nothing is demanded of a part, then `any` occurs in its validator or in that of a named
schema. -/
lemma occurs_any_of_unconstrained {registry : Registry} (hserves : registry.Serves schemas order)
    {part : Schema} (h : Unconstrained schemas part) (current : String) :
    Occurs .any (part.partValidator order current) ∨
      ∃ name s, schemas.get? name = some s ∧ Occurs .any (s.validator order name) := by
  induction h with
  | unknown n type =>
    left
    rw [partValidator, occurs_any_orNull]
    exact .here
  | @unresolved n pointer hnone =>
    obtain ⟨htarget, -⟩ | ⟨name, s, -, -, hsome⟩ := hserves.resolve pointer
    · left
      rw [partValidator, occurs_any_orNull, pointerValidator, htarget]
      exact .here
    · rw [hnone] at hsome
      cases hsome
  | @reference n pointer s hs hparts =>
    obtain ⟨-, hnone⟩ | ⟨name, s', -, hname, hsome⟩ := hserves.resolve pointer
    · rw [hs] at hnone
      cases hnone
    · obtain rfl : s = s' := Option.some_inj.1 (hs.symm.trans hsome)
      right
      refine ⟨name, s, hname, ?_⟩
      rw [validator_eq_any hparts]
      exact .here
  | @union n members m hm _ ih =>
    rcases ih with hoccurs | hnamed
    · left
      rw [partValidator, occurs_any_orNull, memberValidators_eq_map]
      exact .member (List.mem_map_of_mem hm) hoccurs
    · exact Or.inr hnamed

end Schema

namespace Blueprint

variable {document : Document} {blueprint : Blueprint} {schemas : Entries Schema}

/-- In the validators of the named schemas of a strict blueprint, `any` does not occur. -/
lemma not_occurs_any_of_get? (h : ofDocument true document = .ok blueprint)
    (hschemas : document.schemas? = some schemas) {name : String} {s : Schema}
    (hs : schemas.get? name = some s) :
    ¬Occurs .any (s.validator (.ofSchemas schemas) name) := by
  obtain ⟨-, hnone⟩ := ofDocument_true_iff.1 h
  obtain ⟨d, hd, rfl, hvalidator⟩ := exists_component hschemas h hs
  rw [← hvalidator]
  exact hnone d (List.mem_append_left _ hd)

/-- In a strict blueprint, something is demanded of every property of a named schema. -/
lemma not_unconstrained_of_get? (h : ofDocument true document = .ok blueprint)
    (hschemas : document.schemas? = some schemas) {name : String} {n : Notes}
    {properties : List (String × Schema)} {required : List String} {additional : Option Bool}
    (hs : schemas.get? name = some (.object n properties required additional))
    {p : String × Schema} (hp : p ∈ properties) : ¬Schema.Unconstrained schemas p.2 := by
  intro hfree
  have hserves := serves_of_ofDocument hschemas h
  rcases Schema.occurs_any_of_unconstrained hserves hfree name with hoccurs | ⟨name', s, hs', hany⟩
  · apply not_occurs_any_of_get? h hschemas hs
    rw [Schema.validator, Schema.occurs_any_orNull]
    exact .field (List.mem_map_of_mem hp) (Schema.occurs_any_propertyField.2 hoccurs)
  · exact not_occurs_any_of_get? h hschemas hs' hany

/-- In a strict blueprint, the component of an object schema refuses every object that lacks a
property which the schema requires. -/
theorem requires_declared (h : ofDocument true document = .ok blueprint)
    (hschemas : document.schemas? = some schemas) {d : Declaration} (hd : d ∈ blueprint.components)
    {n : Notes} {properties : List (String × Schema)} {required : List String}
    {additional : Option Bool}
    (hs : schemas.get? d.name = some (.object n properties required additional))
    {p : String × Schema} (hp : p ∈ properties) (hrequired : p.1 ∈ required)
    {members : Entries Json} (habsent : members.get? p.1 = none) :
    ∃ i, d.validator.parse blueprint.registry (.object members) = .error (.issue i) := by
  have hdecides := Schema.decides_validator (serves_of_ofDocument hschemas h) (.object members)
    (.object n properties required additional) d.name
  -- The declaration is the one of this schema.
  have hvalidator : d.validator =
      (Schema.object n properties required additional).validator (.ofSchemas schemas) d.name := by
    rw [components_eq_compiled hschemas h] at hd
    obtain ⟨s, -, hs', heq⟩ := Declaration.mem_compiled_iff.1 hd
    obtain rfl := Option.some_inj.1 (hs.symm.trans hs')
    exact congrArg Declaration.validator heq
  rw [hvalidator]
  refine hdecides.exists_issue_iff.2 fun hadmits => ?_
  rcases Schema.admits_object_iff.1 hadmits with ⟨-, hnull⟩ | ⟨members', hmembers, hproperties, -⟩
  · cases hnull
  · obtain rfl := Json.object.inj hmembers
    rcases (hproperties p hp).2 habsent with hnot | hfree
    · exact hnot hrequired
    · exact not_unconstrained_of_get? h hschemas hs hp hfree

/-- A schema that requires two names, of which it declares only the first. -/
def pairSchema : Schema := .object {} [("left", .primitive {} .string)] ["left", "right"] none

/-- A description with this schema and nothing else. -/
def pairDocument : Document where
  components := some { schemas := some [("Pair", pairSchema)] }

/-- The declaration of the schema. -/
def pairDeclaration : Declaration where
  name := "Pair"
  validator := .object [{ name := "left", body := .string }] .strip
  deferred := false

/-- The strict blueprint of the description. -/
def pairBlueprint : Blueprint where
  components := [pairDeclaration]
  inline := []
  tree := .node [] []

/-- The description has its strict blueprint. -/
lemma ofDocument_pairDocument : ofDocument true pairDocument = .ok pairBlueprint := by
  cbv

/-- The component refuses an object that has only the second of the names. -/
theorem pair_requires_left :
    ofDocument true pairDocument = .ok pairBlueprint ∧
      pairDocument.schemas? = some [("Pair", pairSchema)] ∧
      pairDeclaration ∈ pairBlueprint.components ∧
      Entries.get? [("Pair", pairSchema)] pairDeclaration.name = some pairSchema ∧
      ∃ i, pairDeclaration.validator.parse pairBlueprint.registry
        (.object [("right", .string "b")]) = .error (.issue i) :=
  ⟨ofDocument_pairDocument, rfl, List.mem_singleton_self _, rfl,
    requires_declared ofDocument_pairDocument rfl (List.mem_singleton_self pairDeclaration) rfl
      (List.mem_singleton_self _) List.mem_cons_self rfl⟩

/-- The component accepts an object that has only the first of the names: the second one is required
but not declared. -/
theorem undeclared_not_required :
    ofDocument true pairDocument = .ok pairBlueprint ∧
      pairDocument.schemas? = some [("Pair", pairSchema)] ∧
      pairDeclaration ∈ pairBlueprint.components ∧
      Entries.get? [("Pair", pairSchema)] pairDeclaration.name =
        some (.object {} [("left", .primitive {} .string)] ["left", "right"] none) ∧
      "right" ∈ ["left", "right"] ∧
      Entries.get? [("left", Json.string "a")] "right" = none ∧
      pairDeclaration.validator.parse pairBlueprint.registry (.object [("left", .string "a")]) =
        .ok (.object [("left", .string "a")]) := by
  refine ⟨ofDocument_pairDocument, rfl, List.mem_singleton_self _, rfl, by decide, rfl, ?_⟩
  cbv

end Blueprint

end TypedClient
