import TypedClient.Proofs.Blueprint.Endpoints
import TypedClient.Proofs.Call.Exchange

/-!
# What a call does

Before anything is sent, a call can be prevented by four things, which are looked at in a fixed
order (`Call.Stops`): the route has no endpoint, the server is not configured, the query is refused,
the body is refused.  If none of them does, one request is sent (`Call.Proceeds`), and what comes of
the call depends on the reply (`Call.Settles`).  If the registry answers the names of the endpoints,
one of the two holds for every call, and `Call.lawful_run` says what follows.
-/

namespace TypedClient.Call

section

variable (blueprint : Blueprint) (config : Config) (route : List String) (method : String)
  (input : CallInput)

/-- A call goes ahead: there is an endpoint, the server is configured, and both inputs pass. -/
structure Proceeds (e : Endpoint) (base : String) (query body : Option Json) : Prop where
  /-- The endpoint is found at the route. -/
  found : blueprint.tree.endpoint? route method = some e
  /-- The address of the server. -/
  base_eq : config.baseUrl = .ok base
  /-- What has been made of the query. -/
  query : Passes blueprint.registry e.query input.query query
  /-- What has been made of the body. -/
  body : Passes blueprint.registry e.body input.body body

/-- The first thing that prevents a call. -/
inductive Stops : CallFailure → Prop where
  /-- No endpoint has the route and the method. -/
  | noEndpoint (h : blueprint.tree.endpoint? route method = none) : Stops (.noEndpoint method route)
  /-- There is an endpoint, but no usable address of a server. -/
  | config {e : Endpoint} {flaw : ConfigFlaw}
    (found : blueprint.tree.endpoint? route method = some e) (h : config.baseUrl = .error flaw) :
    Stops (.config flaw)
  /-- There are both, but the query is refused. -/
  | query {e : Endpoint} {base : String} {issue : Issue}
    (found : blueprint.tree.endpoint? route method = some e) (base_eq : config.baseUrl = .ok base)
    (h : Refuses blueprint.registry e.query input.query issue) : Stops (.refused .query issue)
  /-- The query passes, but the body is refused. -/
  | body {e : Endpoint} {base : String} {query : Option Json} {issue : Issue}
    (found : blueprint.tree.endpoint? route method = some e) (base_eq : config.baseUrl = .ok base)
    (hquery : Passes blueprint.registry e.query input.query query)
    (h : Refuses blueprint.registry e.body input.body issue) : Stops (.refused .body issue)

/-- What comes of a call whose request has been sent. -/
structure Settles (send : Request → Except Fault Reply) (e : Endpoint) (request : Request)
    (result : Except CallFailure Json) : Prop where
  /-- If no reply comes, the fault of the exchange is reported. -/
  notSent : ∀ fault, send request = .error fault → result = .error (.notSent fault)
  /-- A reply with another status than those of success is reported with its status and its phrase,
  whatever its text. -/
  failed : ∀ reply, send request = .ok reply → ¬(200 ≤ reply.status ∧ reply.status < 400) →
    ∃ data, result = .error (.failed reply.status reply.statusText data)
  /-- Any other reply yields a value, or it is refused. -/
  succeeded : ∀ reply, send request = .ok reply → 200 ≤ reply.status → reply.status < 400 →
    (∃ value, result = .ok value) ∨
      ∃ failure path text, result = .error failure ∧
        failure.toFault = .validation .response path text
  /-- Without a schema for the answer, it yields what its text spells, as it is. -/
  unchecked : ∀ reply, send request = .ok reply → 200 ≤ reply.status → reply.status < 400 →
    e.response = none → ∀ value, result = .ok value ↔ Spells reply.body value

/-- What a call does: it sends at most one request, and it sends one if and only if nothing prevents
it. -/
structure Lawful (send : Request → Except Fault Reply) (exchange : Exchange) : Prop where
  /-- At most one request is sent. -/
  atMostOne : exchange.sent.length ≤ 1
  /-- When a request is sent. -/
  sent_iff : (∃ request, exchange.sent = [request]) ↔
    ∃ e base query body, Proceeds blueprint config route method input e base query body
  /-- If none is sent, something has prevented the call. -/
  stopped : exchange.sent = [] → ∃ failure, Stops blueprint config route method input failure
  /-- The first thing that prevents the call is reported, and nothing is sent. -/
  stops : ∀ failure, Stops blueprint config route method input failure →
    exchange = ⟨[], .error failure⟩
  /-- Which request is sent, and what comes of it. -/
  settles : ∀ e base query body,
    Proceeds blueprint config route method input e base query body →
      ∃ request, exchange.sent = [request] ∧ Carries config e base query body request ∧
        Settles send e request exchange.result

end

variable {blueprint : Blueprint} {config : Config} {send : Request → Except Fault Reply}
  {route : List String} {method : String} {input : CallInput} {e : Endpoint} {base : String}
  {query body : Option Json}

/-- The result of a call whose request is sent. -/
def conclude (registry : Registry) (send : Request → Except Fault Reply) (e : Endpoint)
    (request : Request) : Except CallFailure Json :=
  match send request with
  | .error fault => .error (.notSent fault)
  | .ok reply => finish registry e reply

/-- What prevents a call is reported, and nothing is sent. -/
lemma run_of_stops {failure : CallFailure}
    (h : Stops blueprint config route method input failure) :
    run blueprint config send route method input = ⟨[], .error failure⟩ := by
  have hstop : ∀ {e : Endpoint}, blueprint.tree.endpoint? route method = some e →
      prepare blueprint.registry config e input = .error failure →
      run blueprint config send route method input = ⟨[], .error failure⟩ := by
    intro e found hprepare
    simp only [run, locate, found, hprepare]
  cases h with
  | noEndpoint h => simp only [run, locate, h]
  | @config e flaw found h =>
    have hprepare : prepare blueprint.registry config e input = .error (.config flaw) :=
      prepare_eq_error_iff.2 (Or.inl ⟨flaw, h, rfl⟩)
    exact hstop found hprepare
  | @query e base issue found base_eq h =>
    have hcheck : checkInput blueprint.registry .query e.query input.query =
        .error (.refused .query issue) := checkInput_of_refuses h
    have hprepare : prepare blueprint.registry config e input = .error (.refused .query issue) :=
      prepare_eq_error_iff.2 (Or.inr ⟨base, base_eq, Or.inl hcheck⟩)
    exact hstop found hprepare
  | @body e base query issue found base_eq hquery h =>
    have hcheck : checkInput blueprint.registry .body e.body input.body =
        .error (.refused .body issue) := checkInput_of_refuses h
    have hprepare : prepare blueprint.registry config e input = .error (.refused .body issue) :=
      prepare_eq_error_iff.2 (Or.inr ⟨base, base_eq, Or.inr ⟨query, hquery, hcheck⟩⟩)
    exact hstop found hprepare

/-- A call that goes ahead sends its request. -/
lemma exists_run_of_proceeds (h : Proceeds blueprint config route method input e base query body)
    (send : Request → Except Fault Reply) :
    ∃ request, Carries config e base query body request ∧
      run blueprint config send route method input =
        ⟨[request], conclude blueprint.registry send e request⟩ := by
  have hprepare := prepare_eq_ok_iff.2 ⟨base, query, body, h.base_eq, h.query, h.body, rfl⟩
  refine ⟨_, carries_prepared h.body, ?_⟩
  simp only [run, locate, h.found, hprepare]
  rfl

/-- A call that has sent a request has found its endpoint and has been prepared. -/
lemma exists_prepared_of_sent {request : Request}
    (h : request ∈ (run blueprint config send route method input).sent) :
    ∃ e, blueprint.tree.endpoint? route method = some e ∧
      prepare blueprint.registry config e input = .ok request ∧
      (run blueprint config send route method input).result =
        conclude blueprint.registry send e request := by
  cases hfound : blueprint.tree.endpoint? route method with
  | none =>
    rw [run_of_stops (.noEndpoint hfound)] at h
    cases h
  | some e =>
    cases hprepare : prepare blueprint.registry config e input with
    | error failure =>
      simp only [run, locate, hfound, hprepare] at h
      cases h
    | ok prepared =>
      simp only [run, locate, hfound, hprepare] at h
      obtain rfl := List.mem_singleton.1 h
      refine ⟨e, rfl, hprepare, ?_⟩
      simp only [run, locate, hfound, hprepare]
      rfl

/-- A call goes ahead, or something prevents it, if the registry answers the names of its endpoint.
-/
lemma proceeds_or_stops
    (hanswers : ∀ e, blueprint.tree.endpoint? route method = some e →
      ∀ name ∈ e.schemaNames, blueprint.registry.Answers name) :
    (∃ e base query body, Proceeds blueprint config route method input e base query body) ∨
      ∃ failure, Stops blueprint config route method input failure := by
  cases found : blueprint.tree.endpoint? route method with
  | none => exact Or.inr ⟨_, .noEndpoint found⟩
  | some e =>
    have hnames := hanswers e found
    simp only [Endpoint.schemaNames, List.mem_append, Option.mem_toList] at hnames
    cases base_eq : config.baseUrl with
    | error flaw => exact Or.inr ⟨_, .config found base_eq⟩
    | ok base =>
      have hquery : ∀ n, e.query = some n → blueprint.registry.Answers n :=
        fun n hn => hnames n (Or.inl (Or.inl hn))
      have hbody : ∀ n, e.body = some n → blueprint.registry.Answers n :=
        fun n hn => hnames n (Or.inl (Or.inr hn))
      rcases @passes_or_refuses _ _ input.query hquery with ⟨query, hquery⟩ | ⟨issue, hissue⟩
      · rcases @passes_or_refuses _ _ input.body hbody with ⟨body, hbody⟩ | ⟨issue, hissue⟩
        · exact Or.inl ⟨e, base, query, body, found, base_eq, hquery, hbody⟩
        · exact Or.inr ⟨_, .body found base_eq hquery hissue⟩
      · exact Or.inr ⟨_, .query found base_eq hissue⟩

/-- What comes of a request that has been sent. -/
lemma settles_conclude {registry : Registry} {request : Request}
    (hanswers : ∀ n, e.response = some n → registry.Answers n) :
    Settles send e request (conclude registry send e request) := by
  have hsuccess : ∀ {reply : Reply}, 200 ≤ reply.status → reply.status < 400 →
      reply.isSuccess = true := by
    intro reply hle hlt
    simp [Reply.isSuccess, hle, hlt]
  constructor
  case notSent =>
    intro fault hsend
    rw [conclude, hsend]
  case failed =>
    intro reply hsend hstatus
    rw [conclude, hsend]
    refine finish_of_failure (Bool.eq_false_iff.2 fun h => hstatus ?_)
    simpa [Reply.isSuccess] using h
  case succeeded =>
    intro reply hsend hle hlt
    rw [conclude, hsend]
    dsimp only
    cases hfinish : finish registry e reply with
    | ok value => exact Or.inl ⟨value, rfl⟩
    | error failure =>
      rcases finish_eq_error (hsuccess hle hlt) hanswers hfinish with rfl | ⟨issue, rfl⟩
      · exact Or.inr ⟨_, _, _, rfl, rfl⟩
      · exact Or.inr ⟨_, _, _, rfl, rfl⟩
  case unchecked =>
    intro reply hsend hle hlt hresponse value
    rw [conclude, hsend]
    exact finish_eq_ok_iff (hsuccess hle hlt) hresponse

/-- Every call does what `Lawful` says, if the registry answers the names of its endpoint. -/
theorem lawful_run
    (hanswers : ∀ e, blueprint.tree.endpoint? route method = some e →
      ∀ name ∈ e.schemaNames, blueprint.registry.Answers name) :
    Lawful blueprint config route method input send
      (run blueprint config send route method input) := by
  have hor := @proceeds_or_stops blueprint config route method input hanswers
  constructor
  case atMostOne =>
    rcases hor with ⟨e, base, query, body, h⟩ | ⟨failure, h⟩
    · obtain ⟨request, -, hrun⟩ := exists_run_of_proceeds h send
      rw [hrun]
      exact Nat.le_refl 1
    · rw [run_of_stops h]
      exact Nat.zero_le 1
  case sent_iff =>
    constructor
    · rintro ⟨request, hsent⟩
      refine hor.resolve_right ?_
      rintro ⟨failure, h⟩
      rw [run_of_stops h] at hsent
      cases hsent
    · rintro ⟨e, base, query, body, h⟩
      obtain ⟨request, -, hrun⟩ := exists_run_of_proceeds h send
      exact ⟨request, by rw [hrun]⟩
  case stopped =>
    intro hsent
    refine hor.resolve_left ?_
    rintro ⟨e, base, query, body, h⟩
    obtain ⟨request, -, hrun⟩ := exists_run_of_proceeds h send
    rw [hrun] at hsent
    cases hsent
  case stops => exact fun failure h => run_of_stops h
  case settles =>
    intro e base query body h
    obtain ⟨request, hcarries, hrun⟩ := exists_run_of_proceeds h send
    refine ⟨request, by rw [hrun], hcarries, ?_⟩
    rw [hrun]
    refine settles_conclude fun n hn => hanswers e h.found n ?_
    simp [Endpoint.schemaNames, hn]

/-- A failure for which the registry is not to blame is not reported as a schema that is not known,
unless the fault of the exchange is this very report. -/
lemma toFault_ne_unknownSchema {failure : CallFailure}
    (hunknown : ∀ name, failure ≠ .unknownSchema name)
    (hendless : ∀ subject, failure ≠ .endless subject) (hsent : ∀ fault, failure ≠ .notSent fault)
    (name : String) : failure.toFault ≠ .general ("Unknown schema `" ++ name ++ "`") := by
  intro h
  cases failure with
  | noEndpoint method route =>
    -- The two sentences differ in their first letter.
    have htext := congrArg (fun text : String => text.toList.head?) (Fault.general.inj h)
    simp at htext
  | unknownSchema n => exact hunknown n rfl
  | endless subject => exact hendless subject rfl
  | notSent fault => exact hsent fault rfl
  | _ => simp [CallFailure.toFault, Issue.toFault] at h

/-- No call fails because of the registry, if the registry answers the names of its endpoint. -/
lemma not_unknownSchema_of_run
    (hanswers : ∀ e, blueprint.tree.endpoint? route method = some e →
      ∀ name ∈ e.schemaNames, blueprint.registry.Answers name) {failure : CallFailure}
    (h : (run blueprint config send route method input).result = .error failure) :
    (∀ name, failure ≠ .unknownSchema name) ∧ ∀ subject, failure ≠ .endless subject := by
  rcases @proceeds_or_stops blueprint config route method input hanswers with
    ⟨e, base, query, body, hproceeds⟩ | ⟨failure', hstops⟩
  · obtain ⟨request, -, hrun⟩ := exists_run_of_proceeds hproceeds send
    rw [hrun] at h
    dsimp only at h
    unfold conclude at h
    split at h
    · cases h
      simp
    · next reply _ =>
      cases hsuccess : reply.isSuccess with
      | false =>
        obtain ⟨data, hdata⟩ := @finish_of_failure blueprint.registry e reply hsuccess
        cases hdata.symm.trans h
        simp
      | true =>
        have hresponse : ∀ n, e.response = some n → blueprint.registry.Answers n := fun n hn =>
          hanswers e hproceeds.found n (by simp [Endpoint.schemaNames, hn])
        rcases finish_eq_error hsuccess hresponse h with rfl | ⟨issue, rfl⟩ <;> simp
  · rw [run_of_stops hstops] at h
    cases h
    cases hstops <;> simp

end TypedClient.Call
