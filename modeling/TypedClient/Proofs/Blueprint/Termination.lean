import TypedClient.Proofs.Blueprint.Acceptance
import TypedClient.Proofs.Blueprint.Endpoints
import TypedClient.Proofs.Blueprint.Initialisation
import TypedClient.Proofs.Call.Run
import TypedClient.Proofs.Validator.Termination

/-!
# Every question to a blueprint has an answer

Whatever circles the schemas of a description form, the questions to the validators of its blueprint
end, and no name is missing: every reference leads to a component, and every schema of an endpoint
is declared.  So a call never fails because of the blueprint itself
(`Blueprint.ofDocument_answers`), and every call is lawful: each of its inputs passes its schema or
is refused (`Blueprint.ofDocument_lawful_calls`).
-/

namespace TypedClient

open Validator (Subquestion Regular)

namespace Blueprint

/-- Nothing that is asked of the registry of a blueprint remains without an answer. -/
structure Answers (blueprint : Blueprint) : Prop where
  /-- The questions whether a member may be absent end. -/
  absenceEnds : ∀ d ∈ blueprint.declarations,
    Acc (Subquestion blueprint.registry) (.absence d.validator)
  /-- The questions what a validator makes of a value end. -/
  valueEnds : ∀ d ∈ blueprint.declarations, ∀ value,
    Acc (Subquestion blueprint.registry) (.value d.validator value)
  /-- It is known whether a member may be absent. -/
  absence : ∀ d ∈ blueprint.declarations,
    ∃ answer, d.validator.mayBeAbsent blueprint.registry = some answer
  /-- A validator ends in a value, or in an issue that is not about a name that is missing. -/
  value : ∀ d ∈ blueprint.declarations, ∀ value,
    Regular (d.validator.parse blueprint.registry value)
  /-- The names of the schemas of an endpoint are registered. -/
  registered : ∀ route method e, blueprint.tree.at? route method = some e →
    ∀ name ∈ e.schemaNames, ∃ v, blueprint.registry.get? name = some v
  /-- No call ends because a schema has no validator, or because a validator refers to itself
  without end. -/
  calls : ∀ config send route method input failure,
    (Call.run blueprint config send route method input).result = .error failure →
      (∀ name, failure ≠ .unknownSchema name) ∧ ∀ subject, failure ≠ .endless subject
  /-- No such report comes from a call either, unless it comes from the exchange with the server. -/
  reports : ∀ config send route method input failure,
    (Call.run blueprint config send route method input).result = .error failure →
      (∀ fault, failure ≠ .notSent fault) →
        ∀ name, failure.toFault ≠ .general ("Unknown schema `" ++ name ++ "`")

variable {strict : Bool} {document : Document} {blueprint : Blueprint}

/-- The validators of a registry are those of the declarations. -/
lemma exists_declaration_of_get? {name : String} {v : Validator}
    (hv : blueprint.registry.get? name = some v) :
    ∃ d ∈ blueprint.declarations, d.name = name ∧ d.validator = v := by
  obtain ⟨d, hd, heq⟩ := List.mem_map.1 (Entries.mem_of_get?_ofList hv)
  obtain ⟨hname, hvalidator⟩ := Prod.mk.inj heq
  exact ⟨d, hd, hname, hvalidator⟩

/-- Every declaration is that of some schema. -/
lemma exists_schema_of_mem (h : ofDocument strict document = .ok blueprint)
    {schemas : Entries Schema} (hschemas : document.schemas? = some schemas) {d : Declaration}
    (hd : d ∈ blueprint.declarations) :
    ∃ s : Schema, d.validator = s.validator (.ofSchemas schemas) d.name := by
  obtain ⟨schemas', routes, hschemas', -, -, rfl⟩ := ofDocument_eq_ok_iff.1 h
  obtain rfl : schemas = schemas' := Option.some_inj.1 (hschemas.symm.trans hschemas')
  rcases List.mem_append.1 hd with hd | hd
  · obtain ⟨s, -, -, hvalidator⟩ := Declaration.mem_compiled_iff.1 hd
    exact ⟨s, by rw [hvalidator]⟩
  · obtain ⟨entry, -, rfl⟩ := List.mem_map.1 hd
    exact ⟨entry.2, rfl⟩

/-- The references of a declaration lead to registered names. -/
lemma mem_keys_of_mem_references (h : ofDocument strict document = .ok blueprint) {d : Declaration}
    (hd : d ∈ blueprint.declarations) :
    ∀ r ∈ d.validator.references, r.1 ∈ Entries.keys blueprint.registry := by
  have hkeys : ∀ e ∈ blueprint.components, e.name ∈ Entries.keys blueprint.registry := fun e he =>
    Entries.mem_keys_of_get? (get?_registry_of_mem h (List.mem_append_left _ he))
  have horder := referencesInOrder_of_ofDocument h
  obtain ⟨i, hi⟩ := List.mem_iff_getElem?.1 hd
  rintro ⟨name, _ | _⟩ href
  · obtain ⟨j, e, -, he, rfl⟩ := horder.direct i d name hi href
    exact hkeys e (List.mem_of_getElem? he)
  · obtain ⟨-, j, e, -, he, rfl⟩ := horder.deferred i d name hi href
    exact hkeys e (List.mem_of_getElem? he)

/-- The registry of a blueprint is closed. -/
lemma closed_registry (h : ofDocument strict document = .ok blueprint) :
    blueprint.registry.Closed := by
  intro name target htarget
  obtain ⟨d, hd, -, rfl⟩ := exists_declaration_of_get? htarget
  exact mem_keys_of_mem_references h hd

/-- The questions to the validators of the declarations end. -/
lemma acc_of_mem (h : ofDocument strict document = .ok blueprint) {d : Declaration}
    (hd : d ∈ blueprint.declarations) :
    Acc (Subquestion blueprint.registry) (.absence d.validator) ∧
      ∀ value, Acc (Subquestion blueprint.registry) (.value d.validator value) := by
  obtain ⟨schemas, -, hschemas, -⟩ := ofDocument_eq_ok_iff.1 h
  obtain ⟨s, hvalidator⟩ := exists_schema_of_mem h hschemas hd
  have hserves := serves_of_ofDocument hschemas h
  rw [hvalidator]
  constructor
  · exact Schema.acc_absence_validator s
  · intro value
    exact Schema.acc_value_validator hserves value s d.name

/-- A validator of a declaration ends in a value, or in an issue that is not about a name that is
missing. -/
lemma regular_parse_of_mem (h : ofDocument strict document = .ok blueprint) {d : Declaration}
    (hd : d ∈ blueprint.declarations) (value : Json) :
    Regular (d.validator.parse blueprint.registry value) :=
  Validator.Question.answered_of_acc (closed_registry h) ((acc_of_mem h hd).2 value)
    (mem_keys_of_mem_references h hd) Validator.Question.onTrail_nil

/-- The registry answers the names of the schemas of every endpoint. -/
lemma answers_of_at? (h : ofDocument strict document = .ok blueprint) {route : List String}
    {method : String} {e : Endpoint} (hat : blueprint.tree.at? route method = some e)
    {name : String} (hname : name ∈ e.schemaNames) : blueprint.registry.Answers name := by
  obtain ⟨d, hd, rfl⟩ := exists_declaration_of_at? h hat hname
  exact ⟨d.validator, get?_registry_of_mem h hd, regular_parse_of_mem h hd⟩

/-- Whatever circles the schemas of a description form, every question to the registry of its
blueprint has an answer, and no call fails because of the blueprint. -/
theorem ofDocument_answers (h : ofDocument strict document = .ok blueprint) :
    blueprint.Answers := by
  have hcalls : ∀ config send route method input failure,
      (Call.run blueprint config send route method input).result = .error failure →
        (∀ name, failure ≠ .unknownSchema name) ∧ ∀ subject, failure ≠ .endless subject :=
    fun _ _ _ _ _ _ hresult =>
      Call.not_unknownSchema_of_run (fun _ found _ => answers_of_at? h found) hresult
  constructor
  case absenceEnds => exact fun d hd => (acc_of_mem h hd).1
  case valueEnds => exact fun d hd => (acc_of_mem h hd).2
  case absence =>
    intro d hd
    have hknown : d.validator.acceptsMissing blueprint.registry [] ≠ none :=
      Validator.Question.answered_of_acc (closed_registry h) (acc_of_mem h hd).1
        (mem_keys_of_mem_references h hd) Validator.Question.onTrail_nil
    exact Option.ne_none_iff_exists'.1 hknown
  case value => exact fun d hd => regular_parse_of_mem h hd
  case registered =>
    intro route method e hat name hname
    obtain ⟨v, hv, -⟩ := answers_of_at? h hat hname
    exact ⟨v, hv⟩
  case calls => exact hcalls
  case reports =>
    intro config send route method input failure hresult hsent name
    obtain ⟨hunknown, hendless⟩ := hcalls config send route method input failure hresult
    exact Call.toFault_ne_unknownSchema hunknown hendless hsent name

/-- In the blueprint of two schemas that refer to each other, every question has an answer. -/
theorem circle_answers :
    ofDocument false circleDocument = .ok circleBlueprint ∧ circleBlueprint.Answers :=
  ⟨ofDocument_circleDocument, ofDocument_answers ofDocument_circleDocument⟩

/-! ## Calls -/

/-- Every call of a blueprint, with any configuration, route, method and input, and any exchange
with the server, is lawful. -/
theorem ofDocument_lawful_calls (h : ofDocument strict document = .ok blueprint) (config : Config)
    (send : Request → Except Fault Reply) (route : List String) (method : String)
    (input : CallInput) :
    Call.Lawful blueprint config route method input send
      (Call.run blueprint config send route method input) := by
  have hanswers : ∀ e, blueprint.tree.endpoint? route method = some e →
      ∀ name ∈ e.schemaNames, blueprint.registry.Answers name :=
    fun e found name hname => answers_of_at? h found hname
  exact Call.lawful_run hanswers

/-- A call that sends an empty list of people goes ahead: one request is sent, and the status of the
reply is reported although its text is no JSON. -/
theorem circle_lawful_call :
    let config : Config := { apiUrl := some "http://localhost/" }
    let send := fun _ : Request => Except.ok ⟨500, "Internal Server Error", "oops"⟩
    let input : CallInput := { body := some (.array []) }
    let exchange := Call.run circleBlueprint config send ["people"] "POST" input
    ofDocument false circleDocument = .ok circleBlueprint ∧
      Call.Lawful circleBlueprint config ["people"] "POST" input send exchange ∧
      (∃ request, exchange.sent = [request] ∧ request.method = "POST" ∧
        request.url = "http://localhost/people" ∧ request.body = some "[]") ∧
      ∃ data, exchange.result = .error (.failed 500 "Internal Server Error" data) := by
  intro config send input exchange
  have hlawful : Call.Lawful circleBlueprint config ["people"] "POST" input send exchange :=
    ofDocument_lawful_calls ofDocument_circleDocument config send ["people"] "POST" input
  let e : Endpoint := { method := "post", path := "/people", body := some "postPeopleInput" }
  let list : Validator := .array (.reference "Person" false)
  have hlist : circleBlueprint.registry.get? "postPeopleInput" = some list := by cbv
  have hparse : list.parse circleBlueprint.registry (.array []) = .ok (.array []) := by
    rw [Validator.parse, Validator.parseFrom, Validator.parseItems]
    rfl
  have hproceeds : Call.Proceeds circleBlueprint config ["people"] "POST" input e
      "http://localhost" none (some (.array [])) :=
    ⟨by cbv, by cbv, .unchecked rfl, .parsed rfl hlist hparse⟩
  obtain ⟨request, hsent, hcarries, hsettles⟩ := hlawful.settles _ _ _ _ hproceeds
  have hmethod : request.method = "POST" := hcarries.method_eq.trans (by decide)
  have hurl : request.url = "http://localhost/people" :=
    (hcarries.url_eq (by simp)).trans (by decide)
  have hbody : request.body = some "[]" := hcarries.body_eq.trans (by decide)
  exact ⟨ofDocument_circleDocument, hlawful, ⟨request, hsent, hmethod, hurl, hbody⟩,
    hsettles.failed _ rfl (by decide)⟩

end Blueprint

end TypedClient
