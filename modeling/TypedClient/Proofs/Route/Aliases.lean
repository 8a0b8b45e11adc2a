import TypedClient.Proofs.Document.Read
import TypedClient.Proofs.Route.QuerySchema

/-!
# Parameters behind several references

The named parameters of a description may themselves be references, so that following pointers may
take any number of steps until a parameter is reached (`Document.LeadsTo`).  A reference is resolved
by one step.  So a parameter counts as if it were written in the place of a reference to it, but not
in the place of a reference to such a reference: what counts there is the second reference, and where
this does not itself say that it is carried in the query, nothing does
(`Document.resolved_of_leadsTo`).
-/

namespace TypedClient

namespace Document

/-- A pointer names a parameter of a description. -/
def Names (document : Document) (pointer : String) (p : Parameter) : Prop :=
  ∃ components name, document.components = some components ∧
    Pointer.parameterName? pointer = some name ∧ components.parameters.get? name = some p

/-- From a parameter, a number of references lead to a parameter that is no reference. -/
inductive LeadsTo (document : Document) : Nat → Parameter → Parameter → Prop where
  | here {p : Parameter} (hp : p.reference = none) : LeadsTo document 0 p p
  | step {n : Nat} {p next q : Parameter} {pointer : String} (hp : p.reference = some pointer)
    (hnext : document.Names pointer next) (h : LeadsTo document n next q) :
    LeadsTo document (n + 1) p q

/-- The query of every operation is the same if some parameters are written in the place of a certain
parameter, be it one of the operation or one that the operations of the path share. -/
def SameQuery (document : Document) (p : Parameter) (instead : List Parameter) : Prop :=
  ∀ before after (item item' : PathItem) (operation operation' : Operation),
    item.parameters ++ operation.parameters = before ++ p :: after →
      item'.parameters ++ operation'.parameters = before ++ instead ++ after →
        querySchema? (document.queryParameters item operation) =
          querySchema? (document.queryParameters item' operation')

/-- What becomes of a parameter from which a number of references lead to another one. -/
structure Resolved (document : Document) (n : Nat) (p q : Parameter) : Prop where
  /-- It is resolved if there is at most one reference. -/
  resolve?_eq_iff : document.resolve? p = some q ↔ n ≤ 1
  /-- In this case it counts like the parameter that it leads to. -/
  inPlace : n ≤ 1 → document.SameQuery p [q]
  /-- Otherwise it is resolved to a reference.  Nothing else counts at its position, and nothing at all
  if this reference does not itself say that it is carried in the query. -/
  stopped : 1 < n → ∃ next, document.resolve? p = some next ∧ next.reference ≠ none ∧
    (next.location ≠ .query → document.SameQuery p []) ∧
    ∀ (item : PathItem) (operation : Operation) i,
      (item.parameters ++ operation.parameters)[i]? = some p →
        ∀ name r, document.QueryParameterAt item operation i name r → r = next

variable {document : Document} {n : Nat} {p next q : Parameter}

/-! ## One step -/

/-- A parameter that is no reference is resolved to itself. -/
lemma resolve?_of_none (hp : p.reference = none) : document.resolve? p = some p := by
  rw [resolve?, hp]

/-- A reference is resolved to the parameter that its pointer names. -/
lemma resolve?_of_names {pointer : String} (hp : p.reference = some pointer)
    (hnext : document.Names pointer next) : document.resolve? p = some next := by
  obtain ⟨components, name, hcomponents, hname, hget⟩ := hnext
  rw [resolve?, hp]
  dsimp only
  rw [hname, Option.bind_some, hcomponents, Option.bind_some, hget]

/-- The parameter at the end of references is no reference. -/
lemma LeadsTo.reference_eq_none (h : document.LeadsTo n p q) : q.reference = none := by
  induction h with
  | here hp => exact hp
  | step _ _ _ ih => exact ih

/-- Only behind references there is a parameter that is a reference. -/
lemma LeadsTo.reference_ne_none (h : document.LeadsTo (n + 1) p q) : p.reference ≠ none := by
  cases h with
  | step hp _ _ =>
    rw [hp]
    exact Option.some_ne_none _

/-! ## The query -/

/-- Parameters that are resolved alike count alike. -/
lemma sameQuery_of_resolve?_eq (h : document.resolve? p = document.resolve? q) :
    document.SameQuery p [q] := by
  intro before after item item' operation operation' hp hq
  have hpair : document.queryPair? p = document.queryPair? q := by
    rw [queryPair?, h, ← queryPair?]
  rw [queryParameters_eq, queryParameters_eq, hp, hq, List.filterMap_append, List.append_assoc,
    List.filterMap_append, List.singleton_append, List.filterMap_cons, List.filterMap_cons, hpair]

/-- A parameter that is resolved to one that is carried elsewhere does not count. -/
lemma sameQuery_nil_of_location_ne (h : document.resolve? p = some next)
    (hlocation : next.location ≠ .query) : document.SameQuery p [] := by
  intro before after item item' operation operation' hp hothers
  rw [List.append_nil] at hothers
  have helsewhere : ∀ q, document.resolve? p = some q → q.location ≠ .query := by
    intro q hq
    obtain rfl := Option.some_inj.1 (h.symm.trans hq)
    exact hlocation
  rw [queryParameters_eq_of_elsewhere hp helsewhere hothers]

/-- Nothing counts at the position of a parameter but the one that it is resolved to. -/
lemma eq_of_queryParameterAt (h : document.resolve? p = some next) {item : PathItem}
    {operation : Operation} {i : Nat}
    (hp : (item.parameters ++ operation.parameters)[i]? = some p) {name : String} {r : Parameter}
    (hr : document.QueryParameterAt item operation i name r) : r = next := by
  obtain ⟨p', hp', hresolve, -⟩ := hr
  obtain rfl := Option.some_inj.1 (hp.symm.trans hp')
  exact Option.some_inj.1 (hresolve.symm.trans h)

/-! ## Several steps -/

/-- A parameter counts in the place of a reference to it.  In the place of a reference to a reference
it does not: such a reference is resolved to the second one, and if this does not itself say that it
is carried in the query, the parameter is left out. -/
theorem resolved_of_leadsTo (h : document.LeadsTo n p q) : document.Resolved n p q := by
  cases h with
  | here hp =>
    have hresolve : document.resolve? p = some p := resolve?_of_none hp
    refine ⟨iff_of_true hresolve (Nat.zero_le 1), fun _ => sameQuery_of_resolve?_eq rfl, ?_⟩
    intro hn
    exact absurd hn (Nat.not_lt_zero 1)
  | @step n _ next _ pointer hp hnext hrest =>
    have hresolve : document.resolve? p = some next := resolve?_of_names hp hnext
    cases n with
    | zero =>
      cases hrest with
      | here hq =>
        refine ⟨iff_of_true hresolve (Nat.le_refl 1), fun _ => ?_, ?_⟩
        · exact sameQuery_of_resolve?_eq (hresolve.trans (resolve?_of_none hq).symm)
        · intro hn
          exact absurd hn (Nat.lt_irrefl 1)
    | succ n =>
      have hreference : next.reference ≠ none := hrest.reference_ne_none
      refine ⟨iff_of_false ?_ (by omega), fun hn => absurd hn (by omega), fun _ => ?_⟩
      · intro hq
        obtain rfl := Option.some_inj.1 (hresolve.symm.trans hq)
        exact hreference hrest.reference_eq_none
      · exact ⟨next, hresolve, hreference, sameQuery_nil_of_location_ne hresolve,
          fun item operation i hi name r => eq_of_queryParameterAt hresolve hi⟩

/-- The text of a description of one operation with one parameter, which is a reference to a named
parameter that is a reference to another one. -/
def aliasText : String :=
  "\x7b\"components\": \x7b\"schemas\": \x7b\x7d, \"parameters\": \x7b" ++
    "\"Limit\": \x7b\"$ref\": \"#/components/parameters/Size\"\x7d, " ++
    "\"Size\": \x7b\"name\": \"limit\", \"in\": \"query\"\x7d\x7d\x7d, " ++
    "\"paths\": \x7b\"/pets\": \x7b\"get\": \x7b\"parameters\": " ++
    "[\x7b\"$ref\": \"#/components/parameters/Limit\"\x7d]\x7d\x7d\x7d\x7d"

/-- The events of the text. -/
def aliasEvents : List (Yaml.Event String) :=
  let key := fun text => Yaml.Event.scalar {} text false
  [.mappingStart {},
    key "components", .mappingStart {},
      key "schemas", .mappingStart {}, .mappingEnd,
      key "parameters", .mappingStart {},
        key "Limit", .mappingStart {}, key "$ref", key "#/components/parameters/Size", .mappingEnd,
        key "Size", .mappingStart {}, key "name", key "limit", key "in", key "query", .mappingEnd,
      .mappingEnd, .mappingEnd,
    key "paths", .mappingStart {},
      key "/pets", .mappingStart {}, key "get", .mappingStart {},
        key "parameters", .sequenceStart {},
          .mappingStart {}, key "$ref", key "#/components/parameters/Limit", .mappingEnd,
        .sequenceEnd, .mappingEnd, .mappingEnd, .mappingEnd, .mappingEnd]

/-- The value of the events. -/
def aliasValue : Yaml.Value :=
  .mapping [
    (.string "components", .mapping [
      (.string "schemas", .mapping []),
      (.string "parameters", .mapping [
        (.string "Limit", .mapping [(.string "$ref", .string "#/components/parameters/Size")]),
        (.string "Size", .mapping [
          (.string "name", .string "limit"), (.string "in", .string "query")])])]),
    (.string "paths", .mapping [
      (.string "/pets", .mapping [(.string "get", .mapping [
        (.string "parameters", .sequence [
          .mapping [(.string "$ref", .string "#/components/parameters/Limit")]])])])])]

/-- The parameter of the operation, which is a reference. -/
def aliasReference : Parameter where
  reference := some "#/components/parameters/Limit"

/-- The named parameter that the references lead to. -/
def aliasTarget : Parameter where
  name := "limit"
  location := .query

/-- The operation with the reference. -/
def aliasOperation : Operation where
  parameters := [aliasReference]

/-- The description that the text spells. -/
def aliasDocument : Document where
  components := some {
    schemas := some []
    parameters := [
      ("Limit", { reference := some "#/components/parameters/Size" }), ("Size", aliasTarget)] }
  paths := [("/pets", { operations := [("get", aliasOperation)] })]

/-- The text spells the description. -/
lemma read_aliasText : read aliasText = .ok aliasDocument := by
  have hevents : (Yaml.tokens? aliasText.toList).bind Yaml.Event.ofTokens? = some aliasEvents := by
    -- The literals are taken apart by a lemma, which is much faster than decoding them.
    delta aliasText
    simp only [String.toList_append]
    repeat rw [String.toList_ofList]
    decide +kernel
  have hvalue : Yaml.Value.ofEvents? aliasEvents = some aliasValue := by cbv
  exact read_eq_ok_of_steps hevents hvalue rfl

/-- Two references lead to the parameter. -/
lemma leadsTo_aliasTarget : aliasDocument.LeadsTo 2 aliasReference aliasTarget := by
  refine .step rfl ⟨_, "Limit", rfl, by decide, rfl⟩ ?_
  exact .step rfl ⟨_, "Size", rfl, by decide, rfl⟩ (.here rfl)

/-- Of the two references to the parameter only the first is followed, so the query of an operation is
the same without it. -/
theorem alias_resolved :
    aliasDocument.LeadsTo 2 aliasReference aliasTarget ∧
      aliasDocument.Resolved 2 aliasReference aliasTarget ∧
      aliasDocument.SameQuery aliasReference [] := by
  have hresolved := resolved_of_leadsTo leadsTo_aliasTarget
  have hlocation : (aliasDocument.resolve? aliasReference).map Parameter.location =
      some .other := rfl
  obtain ⟨next, hnext, -, hsame, -⟩ := hresolved.stopped (Nat.lt_succ_self 1)
  rw [hnext, Option.map_some, Option.some_inj] at hlocation
  refine ⟨leadsTo_aliasTarget, hresolved, hsame ?_⟩
  rw [hlocation]
  exact Location.noConfusion

/-- The operation has no query, though its parameter leads to one that is carried in the query, and
though it would have a query with this parameter written in place. -/
theorem alias_left_out :
    read aliasText = .ok aliasDocument ∧
      aliasDocument.paths = [("/pets", { operations := [("get", aliasOperation)] })] ∧
      aliasDocument.LeadsTo 2 aliasReference aliasTarget ∧
      aliasTarget.location = .query ∧
      aliasDocument.resolve? aliasReference ≠ some aliasTarget ∧
      querySchema? (aliasDocument.queryParameters {} aliasOperation) = none ∧
      querySchema? (aliasDocument.queryParameters {} { parameters := [aliasTarget] }) =
        some (.object {} [("limit", .unknown {} none)] [] none) := by
  refine ⟨read_aliasText, rfl, leadsTo_aliasTarget, rfl, ?_, rfl, rfl⟩
  have hresolve : (aliasDocument.resolve? aliasReference).bind Parameter.reference =
      some "#/components/parameters/Size" := by decide
  intro h
  rw [h] at hresolve
  cases hresolve

end Document

end TypedClient
