import Mathlib.Data.List.TakeWhile
import TypedClient.Call.Exchange
import TypedClient.Proofs.Outcome
import TypedClient.Proofs.Validator.Question

/-!
# The parts of a call

How the parts of a call come out: when an input passes its schema (`Call.Passes`) and when it is
refused (`Call.Refuses`), which request is sent for inputs that pass, and what is made of a reply.
Where the registry answers the names of an endpoint (`Registry.Answers`), each input either passes
or is refused (`Call.passes_or_refuses`).
-/

namespace TypedClient

open Validator (Regular)

/-! ## Texts -/

/-- Nothing is left of a text without its blanks at both ends if and only if all of it is blank. -/
lemma Text.trim_eq_nil_iff {text : List Char} :
    Text.trim text = [] ↔ text.all Text.isBlank = true := by
  rw [Text.trim, Text.trimEnd, List.reverse_eq_nil_iff, List.dropWhile_eq_nil_iff, List.all_eq_true]
  simp only [List.mem_reverse]
  induction text with
  | nil => simp
  | cons c rest ih =>
    rw [List.dropWhile_cons, List.forall_mem_cons]
    split
    · next hblank => rw [ih, and_iff_right hblank]
    · rw [List.forall_mem_cons]

/-- The token that is sent: one that is not blank. -/
def Config.token? (config : Config) : Option String :=
  config.accessToken.filter fun token => !token.toList.all Text.isBlank

/-- What is sent as proof of identity. -/
lemma Config.bearer?_eq (config : Config) :
    config.bearer? =
      config.token?.map fun token => "Bearer " ++ String.ofList (Text.trim token.toList) := by
  unfold bearer? token?
  cases config.accessToken with
  | none => rfl
  | some token =>
    rw [Option.map_some, Option.getD_some, Option.filter_some]
    cases htrim : Text.trim token.toList with
    | nil =>
      rw [Text.trim_eq_nil_iff.1 htrim]
      rfl
    | cons c rest =>
      have hblank : ¬token.toList.all Text.isBlank = true := by
        rw [← Text.trim_eq_nil_iff, htrim]
        simp
      rw [if_pos (by simpa using hblank), Option.map_some, htrim]

/-! ## Inputs -/

/-- A registry has a validator of a name, which makes something of every value. -/
def Registry.Answers (registry : Registry) (name : String) : Prop :=
  ∃ v, registry.get? name = some v ∧ ∀ value, Regular (v.parse registry value)

namespace Call

variable {registry : Registry} {subject : Subject} {name : Option String} {given : Option Json}
  {config : Config} {e : Endpoint} {input : CallInput}

/-- An input passes: there is no schema for it, or the validator of the schema makes something of
it. In place of an input that is absent, `null` is given to the validator. -/
inductive Passes (registry : Registry) (name : Option String) (given : Option Json) :
    Option Json → Prop where
  | unchecked (h : name = none) : Passes registry name given none
  | parsed {n : String} {v : Validator} {parsed : Json} (hname : name = some n)
    (hv : registry.get? n = some v) (h : v.parse registry (given.getD .null) = .ok parsed) :
    Passes registry name given (some parsed)

/-- An input is refused: the validator of its schema ends in an issue. -/
inductive Refuses (registry : Registry) (name : Option String) (given : Option Json) :
    Issue → Prop where
  | issue {n : String} {v : Validator} {issue : Issue} (hname : name = some n)
    (hv : registry.get? n = some v)
    (h : v.parse registry (given.getD .null) = .error (.issue issue)) :
    Refuses registry name given issue

/-- An input is checked to something if and only if it passes. -/
lemma checkInput_eq_ok_iff {parsed : Option Json} :
    checkInput registry subject name given = .ok parsed ↔ Passes registry name given parsed := by
  cases name with
  | none =>
    rw [checkInput]
    constructor
    · rintro ⟨⟩
      exact .unchecked rfl
    · rintro ⟨⟩
      · rfl
      · next hname _ _ => cases hname
  | some n =>
    rw [checkInput, check, Except.map_eq_ok_iff]
    constructor
    · rintro ⟨w, h, rfl⟩
      split at h
      · cases h
      · next v hv =>
        split at h
        · next hparse =>
          cases h
          exact .parsed rfl hv hparse
        · cases h
        · cases h
    · rintro ⟨⟩
      · next hname => cases hname
      · next hname hv h =>
        cases hname
        exact ⟨_, by rw [hv]; dsimp only; rw [h], rfl⟩

/-- Where the registry answers the name of the schema, an input that is not checked is refused. -/
lemma exists_refuses_of_checkInput {failure : CallFailure}
    (hname : ∀ n, name = some n → registry.Answers n)
    (h : checkInput registry subject name given = .error failure) :
    ∃ issue, Refuses registry name given issue ∧ failure = .refused subject issue := by
  cases name with
  | none => cases h
  | some n =>
    obtain ⟨v, hv, hregular⟩ := hname n rfl
    have hvalue := hregular (given.getD .null)
    rw [checkInput, Except.map_eq_error_iff, check, hv] at h
    dsimp only at h
    split at h
    · cases h
    · next issue hparse =>
      cases h
      exact ⟨issue, .issue rfl hv hparse, rfl⟩
    · next hparse =>
      rw [hparse] at hvalue
      cases hvalue

/-- An input that is refused is reported. -/
lemma checkInput_of_refuses {issue : Issue} (h : Refuses registry name given issue) :
    checkInput registry subject name given = .error (.refused subject issue) := by
  cases h with
  | issue hname hv h =>
    subst hname
    rw [checkInput, Except.map_eq_error_iff, check, hv]
    dsimp only
    rw [h]

/-- Where the registry answers the name of the schema, an input passes or is refused. -/
lemma passes_or_refuses (hname : ∀ n, name = some n → registry.Answers n) :
    (∃ parsed, Passes registry name given parsed) ∨ ∃ issue, Refuses registry name given issue := by
  cases h : checkInput registry .query name given with
  | ok parsed => exact Or.inl ⟨parsed, checkInput_eq_ok_iff.1 h⟩
  | error failure =>
    obtain ⟨issue, hissue, -⟩ := exists_refuses_of_checkInput hname h
    exact Or.inr ⟨issue, hissue⟩

/-- Something has been made of an input if and only if there is a schema for it. -/
lemma Passes.isSome_eq {parsed : Option Json} (h : Passes registry name given parsed) :
    parsed.isSome = name.isSome := by
  cases h with
  | unchecked h => rw [h]; rfl
  | parsed hname _ _ => rw [hname]; rfl

/-! ## Requests -/

/-- A request carries what has been made of the inputs of an endpoint. -/
structure Carries (config : Config) (e : Endpoint) (base : String) (query body : Option Json)
    (request : Request) : Prop where
  /-- The method is in upper case. -/
  method_eq : request.method = Text.upper e.method
  /-- The address is that of the server with the path template behind it. -/
  url_eq : (∀ parsed, query = some parsed → Query.render parsed = "") →
    request.url = base ++ e.path
  /-- A query string that is not empty comes behind a question mark; it is that of the query which
  the validator made. -/
  url_eq_of_query : ∀ parsed, query = some parsed → Query.render parsed ≠ "" →
    request.url = base ++ e.path ++ "?" ++ Query.render parsed
  /-- The body is the text of the body that the validator made. -/
  body_eq : request.body = body.map Json.compact
  /-- There is a body if and only if there is a schema for it. -/
  isSome_body : request.body.isSome = e.body.isSome
  /-- Without a token, or with a blank one, the only header is the type of the content. -/
  headers_eq : config.token? = none → request.headers = [("Content-Type", "application/json")]
  /-- Otherwise the token is sent as well, without blanks around it. -/
  headers_eq_of_token : ∀ token, config.token? = some token →
    request.headers = [("Content-Type", "application/json"),
      ("Authorization", "Bearer " ++ String.ofList (Text.trim token.toList))]

/-- A call is prepared if and only if the server is configured and both inputs pass. -/
lemma prepare_eq_ok_iff {request : Request} :
    prepare registry config e input = .ok request ↔
      ∃ base query body, config.baseUrl = .ok base ∧
        Passes registry e.query input.query query ∧ Passes registry e.body input.body body ∧
        request = {
          method := e.httpMethod
          url := base ++ e.path ++ querySuffix query
          headers := headers config
          body := body.map Json.compact } := by
  unfold prepare
  simp only [Except.bind_eq_ok_iff, Except.mapError_eq_ok_iff, checkInput_eq_ok_iff, pure,
    Except.pure, Except.ok.injEq]
  constructor
  · rintro ⟨base, hbase, query, hquery, body, hbody, rfl⟩
    exact ⟨base, query, body, hbase, hquery, hbody, rfl⟩
  · rintro ⟨base, query, body, hbase, hquery, hbody, rfl⟩
    exact ⟨base, hbase, query, hquery, body, hbody, rfl⟩

/-- A call that is not prepared lacks a server, or its query is refused, or its body; the first of
these is reported. -/
lemma prepare_eq_error_iff {failure : CallFailure} :
    prepare registry config e input = .error failure ↔
      (∃ flaw, config.baseUrl = .error flaw ∧ .config flaw = failure) ∨
      ∃ base, config.baseUrl = .ok base ∧
        (checkInput registry .query e.query input.query = .error failure ∨
          ∃ query, Passes registry e.query input.query query ∧
            checkInput registry .body e.body input.body = .error failure) := by
  unfold prepare
  simp only [Except.bind_eq_error_iff, Except.mapError_eq_ok_iff, Except.mapError_eq_error_iff,
    checkInput_eq_ok_iff, pure, Except.pure, reduceCtorEq, and_false, exists_false, or_false]

/-- The request of a prepared call carries what has been made of the inputs. -/
lemma carries_prepared {base : String} {query body : Option Json}
    (hbody : Passes registry e.body input.body body) :
    Carries config e base query body {
      method := e.httpMethod
      url := base ++ e.path ++ querySuffix query
      headers := headers config
      body := body.map Json.compact } := by
  constructor
  case method_eq => rfl
  case url_eq =>
    intro hempty
    cases query with
    | none => simp [querySuffix]
    | some parsed => simp [querySuffix, hempty parsed rfl]
  case url_eq_of_query =>
    rintro parsed rfl hrender
    simp [querySuffix, hrender, String.append_assoc]
  case body_eq => rfl
  case isSome_body =>
    rw [Option.isSome_map]
    exact hbody.isSome_eq
  case headers_eq =>
    intro htoken
    rw [headers, Config.bearer?_eq, htoken]
    rfl
  case headers_eq_of_token =>
    intro token htoken
    rw [headers, Config.bearer?_eq, htoken]
    rfl

/-! ## Replies -/

/-- What the text of a reply spells: nothing but blanks spells `null`, and any other text spells a
value if it is JSON. -/
inductive Spells (text : String) : Json → Prop where
  | blank (h : text.toList.all Text.isBlank = true) : Spells text .null
  | json {value : Json} (h : text.toList.all Text.isBlank = false)
    (hparse : Json.parse? text = some value) : Spells text value

variable {reply : Reply}

/-- What is read from a successful reply is what its text spells. -/
lemma readBody_eq_ok_iff (hsuccess : reply.isSuccess = true) {value : Json} :
    readBody reply = .ok value ↔ Spells reply.body value := by
  unfold readBody
  split
  · next hblank =>
    constructor
    · rintro ⟨⟩
      exact .blank hblank
    · rintro (_ | ⟨h, _⟩)
      · rfl
      · rw [hblank] at h
        cases h
  · next hblank =>
    have hfalse : reply.body.toList.all Text.isBlank = false := by simpa using hblank
    constructor
    · intro h
      split at h
      · next hparse =>
        cases h
        exact .json hfalse hparse
      · cases h
    · rintro (h | ⟨_, hparse⟩)
      · exact absurd h hblank
      · rw [hparse]

/-- A successful reply that cannot be read is no JSON. -/
lemma eq_notJson_of_readBody (hsuccess : reply.isSuccess = true) {failure : CallFailure}
    (h : readBody reply = .error failure) : failure = .notJson := by
  unfold readBody at h
  rw [if_pos hsuccess] at h
  split at h
  · cases h
  · split at h
    · cases h
    · exact (Except.error.inj h).symm

/-- Something is read from every reply that reports failure. -/
lemma exists_readBody (hfailure : reply.isSuccess = false) :
    ∃ data, readBody reply = .ok data := by
  unfold readBody
  split
  · exact ⟨_, rfl⟩
  · split
    · exact ⟨_, rfl⟩
    · rw [hfailure]
      exact ⟨_, rfl⟩

/-- A reply that reports failure ends the call with its status, whatever its text. -/
lemma finish_of_failure (hfailure : reply.isSuccess = false) :
    ∃ data, finish registry e reply = .error (.failed reply.status reply.statusText data) := by
  obtain ⟨data, hdata⟩ := exists_readBody hfailure
  refine ⟨data, ?_⟩
  rw [finish, hdata, hfailure]
  rfl

/-- Without a schema for the answer, a successful reply yields what its text spells. -/
lemma finish_eq_ok_iff (hsuccess : reply.isSuccess = true) (hresponse : e.response = none)
    {value : Json} : finish registry e reply = .ok value ↔ Spells reply.body value := by
  rw [← readBody_eq_ok_iff hsuccess, finish, hsuccess, hresponse, Except.bind_eq_ok_iff]
  constructor
  · rintro ⟨data, hdata, ⟨⟩⟩
    exact hdata
  · intro h
    exact ⟨value, h, rfl⟩

/-- Where the registry answers the name of the schema, a successful reply that yields no value is no
JSON, or it is refused. -/
lemma finish_eq_error (hsuccess : reply.isSuccess = true)
    (hname : ∀ n, e.response = some n → registry.Answers n) {failure : CallFailure}
    (h : finish registry e reply = .error failure) :
    failure = .notJson ∨ ∃ issue, failure = .refused .response issue := by
  rw [finish, hsuccess] at h
  rcases Except.bind_eq_error_iff.1 h with h | ⟨data, -, h⟩
  · exact Or.inl (eq_notJson_of_readBody hsuccess h)
  · cases hresponse : e.response with
    | none =>
      rw [hresponse] at h
      cases h
    | some n =>
      rw [hresponse] at h
      have hcheck : checkInput registry .response e.response (some data) = .error failure := by
        rw [hresponse, checkInput, Except.map_eq_error_iff]
        exact h
      obtain ⟨issue, -, hissue⟩ := exists_refuses_of_checkInput hname hcheck
      exact Or.inr ⟨issue, hissue⟩

end Call

end TypedClient
