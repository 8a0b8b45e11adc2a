import TypedClient.Proofs.Blueprint.Termination
import TypedClient.Proofs.Document.Read

/-!
# References at operations

The body and the answer of an operation may be references to named schemas.  As a part of another
schema such a reference has a validator of its own, which accepts `null` as well if the reference
says so.  The endpoint of the operation only bears the name of the schema that the reference leads
to.  So a call checks its body and its answer like the validator of the reference without the note
about `null` (`Blueprint.references_checked`): the two agree on every value but `null`, and on `null`
they differ if the reference accepts it and the named schema does not
(`nullable_refuses_null`).
-/

namespace TypedClient

open Validator (Regular)

namespace Schema

variable {registry : Registry} {schemas : Entries Schema} {order : SchemaOrder}

/-- What the validator of a named schema makes of a value does not depend on the references that led
to it: it comes to further references only at the parts of the value. -/
lemma parseFrom_validator (s : Schema) (current : String) (trail : List String) (value : Json) :
    (s.validator order current).parseFrom registry trail value =
      (s.validator order current).parse registry value := by
  have horNull : ∀ (notes : Notes) (v : Validator),
      v.parseFrom registry trail value = v.parseFrom registry [] value →
      (orNull notes v).parseFrom registry trail value =
        (orNull notes v).parseFrom registry [] value := by
    intro notes v hv
    by_cases hnull : notes.nullable = true ∧ value = .null
    · obtain ⟨hnullable, rfl⟩ := hnull
      rw [Validator.parseFrom_orNull_null hnullable, Validator.parseFrom_orNull_null hnullable]
    · rw [Validator.parseFrom_orNull hnull, Validator.parseFrom_orNull hnull, hv]
  cases s with
  | object notes properties required additional =>
    refine horNull notes _ ?_
    cases value <;> simp only [Validator.parseFrom]
  | array notes items =>
    refine horNull notes _ ?_
    cases value <;> simp only [Validator.parseFrom]
  | _ => simp only [validator, Validator.parse, Validator.parseFrom]

/-- Without the note about `null`, the validator of a reference makes of a value what the validator
of the named schema makes of it. -/
lemma exists_parse_reference (hserves : registry.Serves schemas order) {n : Schema}
    {pointer name : String} (hn : n.pointer? = some pointer)
    (htarget : order.target? pointer = some name) :
    ∃ target, registry.get? name = some target ∧ ∀ current value,
      ((n.withNotes {}).partValidator order current).parse registry value =
        target.parse registry value := by
  obtain ⟨hnone, -⟩ | ⟨name', s, hname, hs, -⟩ := hserves.resolve pointer
  · rw [htarget] at hnone
    cases hnone
  obtain rfl : name = name' := Option.some_inj.1 (htarget.symm.trans hname)
  have hregistered := hserves.get?_eq name s hs
  refine ⟨s.validator order name, hregistered, fun current value => ?_⟩
  cases n with
  | reference notes pointer' =>
    obtain rfl := Option.some_inj.1 hn
    have hreference : ((reference {} pointer').partValidator order current) =
        .reference name (order.isForward current name) := by
      rw [partValidator, pointerValidator, htarget]
      rfl
    rw [withNotes, hreference, Validator.parse,
      Validator.parseFrom_reference List.not_mem_nil hregistered, parseFrom_validator]
  | _ => cases hn

/-- The note about `null` is all that a validator takes from the notes of a part. -/
lemma partValidator_eq_orNull (n : Schema) (current : String) :
    n.partValidator order current =
      orNull n.notes ((n.withNotes {}).partValidator order current) := by
  have hplain : ∀ v, orNull {} v = v := fun _ => rfl
  cases n with
  | primitive notes type => cases type <;> (simp only [partValidator, withNotes, hplain]; rfl)
  | _ => simp only [partValidator, withNotes, hplain]; rfl

/-- A part that bears the note accepts `null`, as it is. -/
lemma parse_partValidator_null {n : Schema} (h : n.nullable = true) (current : String) :
    (n.partValidator order current).parse registry .null = .ok .null := by
  rw [partValidator_eq_orNull]
  exact Validator.parseFrom_orNull_null h _

/-- The note changes nothing else. -/
lemma parse_partValidator_withNotes {n : Schema} {value : Json}
    (h : ¬(n.nullable = true ∧ value = .null)) (current : String) :
    (n.partValidator order current).parse registry value =
      ((n.withNotes {}).partValidator order current).parse registry value := by
  rw [partValidator_eq_orNull]
  exact Validator.parseFrom_orNull h _

end Schema

namespace Call

/-- The bodies of the calls at a route are checked by a validator. -/
structure ChecksBody (blueprint : Blueprint) (route : List String) (method : String)
    (e : Endpoint) (v : Validator) : Prop where
  /-- If the server is configured and the query passes, a request is sent if and only if the
  validator accepts the body. -/
  sent_iff : ∀ config send base query parsed value, config.baseUrl = .ok base →
    Passes blueprint.registry e.query query parsed →
      ((∃ request, (run blueprint config send route method ⟨query, some value⟩).sent = [request]) ↔
        ∃ w, v.parse blueprint.registry value = .ok w)
  /-- The request carries what the validator makes of the body. -/
  carried : ∀ config send query value request w,
    (run blueprint config send route method ⟨query, some value⟩).sent = [request] →
      v.parse blueprint.registry value = .ok w → request.body = some w.compact
  /-- Otherwise the issue in which the validator ends is reported. -/
  reported : ∀ config send base query parsed value issue, config.baseUrl = .ok base →
    Passes blueprint.registry e.query query parsed →
      v.parse blueprint.registry value = .error (.issue issue) →
        run blueprint config send route method ⟨query, some value⟩ =
          ⟨[], .error (.refused .body issue)⟩

/-- The answers to the calls at a route are checked by a validator. -/
structure ChecksAnswer (blueprint : Blueprint) (route : List String) (method : String)
    (v : Validator) : Prop where
  /-- If a request has been sent and a successful reply has come, the call yields a value if and only
  if the validator accepts what the reply spells. -/
  accepted_iff : ∀ config send input request reply value,
    (run blueprint config send route method input).sent = [request] → send request = .ok reply →
      reply.isSuccess = true → Spells reply.body value →
        ((∃ w, (run blueprint config send route method input).result = .ok w) ↔
          ∃ w, v.parse blueprint.registry value = .ok w)
  /-- It is what the validator makes of it. -/
  returned : ∀ config send input request reply value w,
    (run blueprint config send route method input).sent = [request] → send request = .ok reply →
      reply.isSuccess = true → Spells reply.body value →
        v.parse blueprint.registry value = .ok w →
          (run blueprint config send route method input).result = .ok w
  /-- Otherwise the issue in which the validator ends is reported. -/
  reported : ∀ config send input request reply value issue,
    (run blueprint config send route method input).sent = [request] → send request = .ok reply →
      reply.isSuccess = true → Spells reply.body value →
        v.parse blueprint.registry value = .error (.issue issue) →
          (run blueprint config send route method input).result = .error (.refused .response issue)

variable {blueprint : Blueprint} {config : Config} {send : Request → Except Fault Reply}
  {route : List String} {method : String} {input : CallInput} {e : Endpoint} {v target : Validator}
  {name : String}

/-- The bodies at an endpoint are checked by every validator that makes the same of all values as
the one of their schema. -/
lemma checksBody_of_parse_eq (hfound : blueprint.tree.endpoint? route method = some e)
    (hbody : e.body = some name) (hname : blueprint.registry.get? name = some target)
    (hregular : ∀ value, Regular (target.parse blueprint.registry value))
    (hparse : ∀ value, v.parse blueprint.registry value = target.parse blueprint.registry value) :
    ChecksBody blueprint route method e v := by
  have hpasses : ∀ {value w : Json}, v.parse blueprint.registry value = .ok w →
      Passes blueprint.registry e.body (some value) (some w) := by
    intro value w hw
    rw [hparse] at hw
    exact .parsed hbody hname hw
  have hreported : ∀ config send base query parsed value issue, config.baseUrl = .ok base →
      Passes blueprint.registry e.query query parsed →
        v.parse blueprint.registry value = .error (.issue issue) →
          run blueprint config send route method ⟨query, some value⟩ =
            ⟨[], .error (.refused .body issue)⟩ := by
    intro config send base query parsed value issue hbase hquery hissue
    rw [hparse] at hissue
    have hrefuses : Refuses blueprint.registry e.body (some value) issue :=
      .issue hbody hname hissue
    exact run_of_stops (.body hfound hbase hquery hrefuses)
  constructor
  case sent_iff =>
    intro config send base query parsed value hbase hquery
    constructor
    · rintro ⟨request, hsent⟩
      have hvalue := hregular value
      rw [← hparse] at hvalue
      cases houtcome : v.parse blueprint.registry value with
      | ok w => exact ⟨w, rfl⟩
      | error refusal =>
        rw [houtcome] at hvalue
        cases hvalue with
        | issue issue _ =>
          rw [hreported config send base query parsed value issue hbase hquery houtcome] at hsent
          cases hsent
    · rintro ⟨w, hw⟩
      have hproceeds : Proceeds blueprint config route method ⟨query, some value⟩ e base parsed
          (some w) := ⟨hfound, hbase, hquery, hpasses hw⟩
      obtain ⟨request, -, hrun⟩ := exists_run_of_proceeds hproceeds send
      exact ⟨request, by rw [hrun]⟩
  case carried =>
    intro config send query value request w hsent hw
    obtain ⟨e', hfound', hprepare, -⟩ := exists_prepared_of_sent (hsent ▸ List.mem_singleton_self request)
    obtain rfl : e' = e := Option.some_inj.1 (hfound'.symm.trans hfound)
    obtain ⟨base, parsed, body, -, -, hpassed, rfl⟩ := prepare_eq_ok_iff.1 hprepare
    have hsame : body = some w := by
      rw [hparse] at hw
      cases hpassed with
      | unchecked hnone => cases hbody.symm.trans hnone
      | parsed hname' hv hok =>
        obtain rfl := Option.some_inj.1 (hbody.symm.trans hname')
        obtain rfl := Option.some_inj.1 (hname.symm.trans hv)
        exact congrArg some (Except.ok.inj (hok.symm.trans hw))
    rw [hsame]
    rfl
  case reported => exact hreported

/-- A value is checked to something if and only if the registered validator makes it of the value. -/
lemma check_eq_ok_iff {registry : Registry} {subject : Subject} {value w : Json}
    (hname : registry.get? name = some target) :
    check registry subject name value = .ok w ↔ target.parse registry value = .ok w := by
  unfold check
  simp only [hname]
  generalize target.parse registry value = outcome
  cases outcome with
  | ok found => simp only [Except.ok.injEq]
  | error refusal => cases refusal <;> exact iff_of_false nofun nofun

/-- Where the registered validator ends in an issue, the value is refused with it. -/
lemma check_eq_refused {registry : Registry} {subject : Subject} {value : Json} {issue : Issue}
    (hname : registry.get? name = some target)
    (h : target.parse registry value = .error (.issue issue)) :
    check registry subject name value = .error (.refused subject issue) := by
  unfold check
  simp only [hname, h]

/-- A successful reply is checked by the validator of its schema. -/
lemma finish_eq_check {registry : Registry} {reply : Reply} {value : Json}
    (hresponse : e.response = some name) (hsuccess : reply.isSuccess = true)
    (hspells : Spells reply.body value) :
    finish registry e reply = check registry .response name value := by
  rw [finish, (readBody_eq_ok_iff hsuccess).2 hspells, hresponse, hsuccess]
  rfl

/-- The answers at an endpoint are checked by every validator that makes the same of all values as
the one of their schema. -/
lemma checksAnswer_of_parse_eq (hfound : blueprint.tree.endpoint? route method = some e)
    (hresponse : e.response = some name) (hname : blueprint.registry.get? name = some target)
    (hparse : ∀ value, v.parse blueprint.registry value = target.parse blueprint.registry value) :
    ChecksAnswer blueprint route method v := by
  have hresult : ∀ {config send input request reply value},
      (run blueprint config send route method input).sent = [request] →
        send request = .ok reply → reply.isSuccess = true → Spells reply.body value →
          (run blueprint config send route method input).result =
            check blueprint.registry .response name value := by
    intro config send input request reply value hsent hsend hsuccess hspells
    obtain ⟨e', hfound', -, hconclude⟩ := exists_prepared_of_sent (hsent ▸ List.mem_singleton_self request)
    obtain rfl : e' = e := Option.some_inj.1 (hfound'.symm.trans hfound)
    rw [hconclude, conclude, hsend]
    exact finish_eq_check hresponse hsuccess hspells
  constructor
  case accepted_iff =>
    intro config send input request reply value hsent hsend hsuccess hspells
    rw [hresult hsent hsend hsuccess hspells, hparse]
    exact exists_congr fun w => check_eq_ok_iff hname
  case returned =>
    intro config send input request reply value w hsent hsend hsuccess hspells hw
    rw [hparse] at hw
    rw [hresult hsent hsend hsuccess hspells]
    exact (check_eq_ok_iff hname).2 hw
  case reported =>
    intro config send input request reply value issue hsent hsend hsuccess hspells hissue
    rw [hparse] at hissue
    rw [hresult hsent hsend hsuccess hspells]
    exact check_eq_refused hname hissue

end Call

namespace Blueprint

/-- The references that operations have as body or answer, at the endpoints of the operations. -/
structure ReferencesChecked (document : Document) (order : SchemaOrder) (blueprint : Blueprint) :
    Prop where
  /-- Every operation has an endpoint. -/
  operation : ∀ s ∈ document.sites, ∃ route e,
    blueprint.tree.endpoint? route s.method = some e ∧ s.IsEndpoint document order e
  /-- At each of its endpoints, the body is checked by the validator of the reference without the
  note about `null`. -/
  body : ∀ s : Site, ∀ route e, blueprint.tree.endpoint? route s.method = some e →
    s.IsEndpoint document order e → ∀ n name, s.operation.requestSchema? = some n →
      n.component? order = some name → ∀ current,
        Call.ChecksBody blueprint route s.method e ((n.withNotes {}).partValidator order current)
  /-- So is the answer. -/
  answer : ∀ s : Site, ∀ route e, blueprint.tree.endpoint? route s.method = some e →
    s.IsEndpoint document order e → ∀ n name, s.operation.responseSchema? = some n →
      n.component? order = some name → ∀ current,
        Call.ChecksAnswer blueprint route s.method ((n.withNotes {}).partValidator order current)
  /-- The note makes the validator of the reference accept `null`. -/
  null : ∀ (n : Schema) current, n.nullable = true →
    (n.partValidator order current).parse blueprint.registry .null = .ok .null
  /-- On all other values, and without the note, the two validators agree. -/
  agree : ∀ (n : Schema) current value, ¬(n.nullable = true ∧ value = .null) →
    (n.partValidator order current).parse blueprint.registry value =
      ((n.withNotes {}).partValidator order current).parse blueprint.registry value

variable {text : String} {strict : Bool} {document : Document} {blueprint : Blueprint}
  {schemas : Entries Schema}

/-- A reference that leads to a named schema has, without the note, a registered validator that
makes the same of all values. -/
lemma exists_registered (h : ofDocument strict document = .ok blueprint)
    (hschemas : document.schemas? = some schemas) {n : Schema} {name : String}
    (hn : n.component? (.ofSchemas schemas) = some name) :
    ∃ target, blueprint.registry.get? name = some target ∧
      (∀ value, Regular (target.parse blueprint.registry value)) ∧
      ∀ current value,
        ((n.withNotes {}).partValidator (.ofSchemas schemas) current).parse blueprint.registry value =
          target.parse blueprint.registry value := by
  obtain ⟨pointer, hpointer, htarget⟩ := Option.bind_eq_some_iff.1 hn
  obtain ⟨target, htarget, hparse⟩ :=
    Schema.exists_parse_reference (serves_of_ofDocument hschemas h) hpointer htarget
  obtain ⟨d, hd, -, rfl⟩ := exists_declaration_of_get? htarget
  exact ⟨d.validator, htarget, regular_parse_of_mem h hd, hparse⟩

/-- A call checks a body, or an answer, that is a reference to a named schema like the validator of
the reference without the note about `null`. -/
theorem references_checked (hread : Document.read text = .ok document)
    (h : ofDocument strict document = .ok blueprint) (hschemas : document.schemas? = some schemas) :
    ReferencesChecked document (.ofSchemas schemas) blueprint := by
  constructor
  case operation =>
    intro s hs
    have hmethod := Document.method_mem_of_read hread hs
    obtain ⟨pairs, routes, hassembled⟩ := exists_assembled h hschemas
    rw [← hassembled.sites_eq] at hs
    obtain ⟨⟨s, e⟩, hp, rfl⟩ := List.mem_map.1 hs
    refine ⟨RouteTree.newRoute s.keys routes.tree, e, ?_, (hassembled.declaredIn hp).isEndpoint⟩
    rw [RouteTree.endpoint?, Document.lower_eq_self_of_mem_httpMethods _ hmethod]
    exact hassembled.at?_of_mem hp
  case body =>
    intro s route e hfound he n name hn hname current
    obtain ⟨target, htarget, hregular, hparse⟩ := exists_registered h hschemas hname
    have hown : s.ownSchema? document (.ofSchemas schemas) .body = none := by
      simp [Site.ownSchema?, hn, hname]
    have hbody : e.body = some name := by
      have hshared : e.body = s.component? (.ofSchemas schemas) .body := he.shared .body hown
      rw [hshared, Site.component?, hn, Option.bind_some, hname]
    exact Call.checksBody_of_parse_eq hfound hbody htarget hregular (hparse current)
  case answer =>
    intro s route e hfound he n name hn hname current
    obtain ⟨target, htarget, -, hparse⟩ := exists_registered h hschemas hname
    have hresponse : e.response = some name := by
      rw [he.response_eq, Site.answer?, hn, Option.bind_some, hname]
    exact Call.checksAnswer_of_parse_eq hfound hresponse htarget (hparse current)
  case null => exact fun n current hnull => Schema.parse_partValidator_null hnull current
  case agree => exact fun n current value hother => Schema.parse_partValidator_withNotes hother current

/-- The text of a reference to a named schema that accepts `null`, as the content of a body. -/
def nullableContent : String :=
  "\x7b\"content\": \x7b\"application/json\": \x7b\"schema\": \x7b" ++
    "\"$ref\": \"#/components/schemas/Widget\", \"nullable\": true\x7d\x7d\x7d\x7d"

/-- The text of a description of an operation whose body and whose answer are such references. -/
def nullableText : String :=
  "\x7b\"components\": \x7b\"schemas\": \x7b\"Widget\": \x7b\"type\": \"object\", " ++
    "\"properties\": \x7b\"id\": \x7b\"type\": \"string\"\x7d\x7d\x7d\x7d\x7d, " ++
    "\"paths\": \x7b\"/w\": \x7b\"post\": \x7b\"requestBody\": " ++ nullableContent ++
      ", \"responses\": \x7b\"200\": " ++ nullableContent ++ "\x7d\x7d\x7d\x7d\x7d"

/-- The events of the text. -/
def nullableEvents : List (Yaml.Event String) :=
  let key := fun text => Yaml.Event.scalar {} text false
  let content := [.mappingStart {}, key "content", .mappingStart {},
    key "application/json", .mappingStart {}, key "schema", .mappingStart {},
      key "$ref", key "#/components/schemas/Widget",
      key "nullable", .scalar {} "true" true,
    .mappingEnd, .mappingEnd, .mappingEnd, .mappingEnd]
  [.mappingStart {},
    key "components", .mappingStart {}, key "schemas", .mappingStart {},
      key "Widget", .mappingStart {}, key "type", key "object", key "properties", .mappingStart {},
        key "id", .mappingStart {}, key "type", key "string", .mappingEnd, .mappingEnd, .mappingEnd,
    .mappingEnd, .mappingEnd,
    key "paths", .mappingStart {}, key "/w", .mappingStart {}, key "post", .mappingStart {},
      key "requestBody"] ++ content ++
  [key "responses", .mappingStart {}, key "200"] ++ content ++
  [.mappingEnd, .mappingEnd, .mappingEnd, .mappingEnd, .mappingEnd]

/-- The value of the events. -/
def nullableValue : Yaml.Value :=
  let content := Yaml.Value.mapping [(.string "content", .mapping [
    (.string "application/json", .mapping [(.string "schema", .mapping [
      (.string "$ref", .string "#/components/schemas/Widget"),
      (.string "nullable", .bool true)])])])]
  .mapping [
    (.string "components", .mapping [(.string "schemas", .mapping [
      (.string "Widget", .mapping [(.string "type", .string "object"),
        (.string "properties", .mapping [
          (.string "id", .mapping [(.string "type", .string "string")])])])])]),
    (.string "paths", .mapping [(.string "/w", .mapping [(.string "post", .mapping [
      (.string "requestBody", content),
      (.string "responses", .mapping [(.string "200", content)])])])])]

/-- The reference. -/
def nullableReference : Schema :=
  .reference { nullable := true } "#/components/schemas/Widget"

/-- The schemas of the description. -/
def widgetSchemas : Entries Schema :=
  [("Widget", .object {} [("id", .primitive {} .string)] [] none)]

/-- The operation. -/
def nullableOperation : Operation where
  requestBody := some ⟨[(jsonMediaType, some nullableReference)]⟩
  responses := [("200", ⟨[(jsonMediaType, some nullableReference)]⟩)]

/-- The description that the text spells. -/
def nullableDocument : Document where
  components := some { schemas := some widgetSchemas }
  paths := [("/w", { operations := [("post", nullableOperation)] })]

/-- The text spells the description. -/
lemma read_nullableText : Document.read nullableText = .ok nullableDocument := by
  have hevents : (Yaml.tokens? nullableText.toList).bind Yaml.Event.ofTokens? =
      some nullableEvents := by
    -- The literals are taken apart by a lemma, which is much faster than decoding them.
    delta nullableText nullableContent
    simp only [String.toList_append]
    repeat rw [String.toList_ofList]
    decide +kernel
  have hvalue : Yaml.Value.ofEvents? nullableEvents = some nullableValue := by cbv
  have hdocument : Document.ofJson nullableValue.toJson = .ok nullableDocument := by cbv
  exact Document.read_eq_ok_of_steps hevents hvalue hdocument

/-- The blueprint of the description. -/
def nullableBlueprint : Blueprint where
  components := [⟨"Widget", .object [{ name := "id", body := .optional .string }] .strip, false⟩]
  inline := []
  tree := .node [] [("w", .node [("post", {
    method := "post", path := "/w", body := some "Widget", response := some "Widget" })] [])]

/-- The description has its blueprint. -/
lemma ofDocument_nullableDocument : ofDocument false nullableDocument = .ok nullableBlueprint := by
  cbv

/-- In the blueprint of the description, the operation has an endpoint where the body and the answer
are checked like the reference without its note. -/
theorem nullable_references_checked :
    Document.read nullableText = .ok nullableDocument ∧
      ofDocument false nullableDocument = .ok nullableBlueprint ∧
      ReferencesChecked nullableDocument (.ofSchemas widgetSchemas) nullableBlueprint ∧
      ∃ route e, nullableBlueprint.tree.endpoint? route "post" = some e ∧ ∀ current,
        let v := (nullableReference.withNotes {}).partValidator (.ofSchemas widgetSchemas) current
        Call.ChecksBody nullableBlueprint route "post" e v ∧
          Call.ChecksAnswer nullableBlueprint route "post" v := by
  have hchecked : ReferencesChecked nullableDocument (.ofSchemas widgetSchemas) nullableBlueprint :=
    references_checked read_nullableText ofDocument_nullableDocument rfl
  let s : Site := ⟨"/w", { operations := [("post", nullableOperation)] }, "post", nullableOperation⟩
  have hs : s ∈ nullableDocument.sites := List.mem_singleton_self s
  have hrequest : s.operation.requestSchema? = some nullableReference := by cbv
  have hresponse : s.operation.responseSchema? = some nullableReference := by cbv
  have hname : nullableReference.component? (.ofSchemas widgetSchemas) = some "Widget" := by cbv
  obtain ⟨route, e, hfound, he⟩ := hchecked.operation s hs
  refine ⟨read_nullableText, ofDocument_nullableDocument, hchecked, route, e, hfound,
    fun current => ⟨?_, ?_⟩⟩
  · exact hchecked.body s route e hfound he _ _ hrequest hname current
  · exact hchecked.answer s route e hfound he _ _ hresponse hname current

/-- The reference accepts `null`, but no request is sent for the body `null`, and the answer `null`
is refused. -/
theorem nullable_refuses_null :
    let config : Config := { apiUrl := some "http://localhost" }
    let issue : Issue := ⟨[], .mismatch "object" "null"⟩
    Document.read nullableText = .ok nullableDocument ∧
      ofDocument false nullableDocument = .ok nullableBlueprint ∧
      nullableOperation.requestSchema? = some nullableReference ∧
      nullableOperation.responseSchema? = some nullableReference ∧
      nullableReference.component? (.ofSchemas widgetSchemas) = some "Widget" ∧
      (∀ current, (nullableReference.partValidator (.ofSchemas widgetSchemas) current).parse
        nullableBlueprint.registry .null = .ok .null) ∧
      (∀ send, Call.run nullableBlueprint config send ["w"] "post" { body := some .null } =
        ⟨[], .error (.refused .body issue)⟩) ∧
      ∀ send, (∀ request, send request = .ok ⟨200, "OK", "null"⟩) →
        (Call.run nullableBlueprint config send ["w"] "post" { body := some (.object []) }).result =
          .error (.refused .response issue) := by
  intro config issue
  let e : Endpoint :=
    { method := "post", path := "/w", body := some "Widget", response := some "Widget" }
  let widget : Validator := .object [{ name := "id", body := .optional .string }] .strip
  have hfound : nullableBlueprint.tree.endpoint? ["w"] "post" = some e := by cbv
  have hbase : config.baseUrl = .ok "http://localhost" := by cbv
  have hwidget : nullableBlueprint.registry.get? "Widget" = some widget := by cbv
  have hnull : widget.parse nullableBlueprint.registry .null = .error (.issue issue) := by
    cbv
  have hempty : widget.parse nullableBlueprint.registry (.object []) = .ok (.object []) := by
    cbv
  refine ⟨read_nullableText, ofDocument_nullableDocument, by cbv, by cbv, by cbv,
    Schema.parse_partValidator_null rfl, fun send => ?_, fun send hsend => ?_⟩
  · exact Call.run_of_stops (.body hfound hbase (.unchecked rfl) (.issue rfl hwidget hnull))
  · have hproceeds : Call.Proceeds nullableBlueprint config ["w"] "post"
        { body := some (.object []) } e "http://localhost" none (some (.object [])) :=
      ⟨hfound, hbase, .unchecked rfl, .parsed rfl hwidget hempty⟩
    obtain ⟨request, -, hrun⟩ := Call.exists_run_of_proceeds hproceeds send
    have hspells : Call.Spells "null" .null := .json (by decide) (by cbv)
    have hfinish : Call.finish nullableBlueprint.registry e ⟨200, "OK", "null"⟩ =
        Call.check nullableBlueprint.registry .response "Widget" .null :=
      Call.finish_eq_check rfl (by decide) hspells
    rw [hrun]
    dsimp only
    rw [Call.conclude, hsend]
    exact hfinish.trans (Call.check_eq_refused hwidget hnull)

end Blueprint

end TypedClient
