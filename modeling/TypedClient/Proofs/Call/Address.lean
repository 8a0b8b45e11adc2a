import TypedClient.Proofs.Blueprint.Endpoints
import TypedClient.Proofs.Call.Run
import TypedClient.Proofs.Url.Parts

/-!
# Where requests go

The address of a request is the configured address, the path of the operation and the query, one
behind the other.  Whether this leads to the configured host depends on what is put together: the
path of an operation is any text that a description has for one, and a configured address may have a
query of its own.

If the path begins with a slash and the configured address has no mark of a query or a fragment,
then the host of the request is the configured one, and the path of the operation, up to its own
first mark, goes on with the configured path (`Call.ExtendsBase`).  Otherwise a path can become part
of the host (`Blueprint.unrooted_path_leaves_host`).
-/

namespace TypedClient

/-! ## The configured address -/

namespace Config

/-- The text of the configured address, without blanks around it. -/
def address (config : Config) : List Char :=
  Text.trim ((config.apiUrl.map String.toList).getD [])

variable {config : Config} {base : String}

/-- The address that paths are appended to is the configured one without slashes at its end, if it
is an address of the web. -/
lemma baseUrl_eq_ok_iff :
    config.baseUrl = .ok base ↔
      ∃ scheme, Url.scheme config.address = .ok scheme ∧ (scheme = "http" ∨ scheme = "https") ∧
        base = String.ofList (dropSlashes config.address) := by
  unfold baseUrl
  rw [← address]
  cases config.address with
  | nil =>
    constructor
    · rintro ⟨⟩
    · rintro ⟨scheme, hscheme, -, -⟩
      cases hscheme
  | cons c rest =>
    dsimp only
    cases Url.scheme (c :: rest) with
    | error flaw => simp
    | ok scheme =>
      by_cases hweb : scheme = "http" ∨ scheme = "https"
      · simp [hweb, eq_comm]
      · simp [hweb]

/-- A text is what is left of it without slashes at its end, and slashes. -/
lemma exists_eq_dropSlashes_append (text : List Char) :
    ∃ slashes, text = dropSlashes text ++ slashes ∧ ∀ c ∈ slashes, c = '/' := by
  refine ⟨(text.reverse.takeWhile (· == '/')).reverse, ?_, fun c hc => ?_⟩
  · rw [dropSlashes, ← List.reverse_append, List.takeWhile_append_dropWhile, List.reverse_reverse]
  · have hslash := List.mem_takeWhile_imp (List.mem_reverse.1 hc)
    exact beq_iff_eq.1 hslash

/-- Every character of the address that paths are appended to is one of the configured address. -/
lemma mem_of_mem_baseUrl (h : config.baseUrl = .ok base) {c : Char} (hc : c ∈ base.toList) :
    ∃ url, config.apiUrl = some url ∧ c ∈ url.toList := by
  obtain ⟨-, -, -, rfl⟩ := baseUrl_eq_ok_iff.1 h
  obtain ⟨slashes, hslashes, -⟩ := exists_eq_dropSlashes_append config.address
  have haddress : c ∈ config.address := by
    rw [String.toList_ofList] at hc
    rw [hslashes]
    exact List.mem_append_left _ hc
  have htrim : ∀ text : List Char, ∀ c ∈ Text.trim text, c ∈ text := by
    intro text c hmem
    have hstart := (List.dropWhile_suffix _).subset (List.mem_reverse.1 hmem)
    exact (List.dropWhile_suffix _).subset (List.mem_reverse.1 hstart)
  have hurl := htrim _ c haddress
  cases hapi : config.apiUrl with
  | none =>
    rw [hapi] at hurl
    cases hurl
  | some url =>
    rw [hapi] at hurl
    exact ⟨url, rfl, hurl⟩

/-- The address that paths are appended to has no mark of a query or a fragment if the configured one
has none. -/
lemma unmarked_baseUrl (h : config.baseUrl = .ok base)
    (hmarks : ∀ url, config.apiUrl = some url → '?' ∉ url.toList ∧ '#' ∉ url.toList) :
    '?' ∉ base.toList ∧ '#' ∉ base.toList := by
  constructor
  · intro hmem
    obtain ⟨url, hurl, hin⟩ := mem_of_mem_baseUrl h hmem
    exact (hmarks url hurl).1 hin
  · intro hmem
    obtain ⟨url, hurl, hin⟩ := mem_of_mem_baseUrl h hmem
    exact (hmarks url hurl).2 hin

/-- The address that paths are appended to goes as far as the host of an address of the web, and
some of its characters count. -/
lemma namesHost_baseUrl (h : config.baseUrl = .ok base) :
    base.toList.dropWhile Url.isOuter ≠ [] ∧
      ∃ scheme, (scheme = "http" ∨ scheme = "https") ∧
        Url.NamesHost scheme (Url.cleanStart base.toList) := by
  obtain ⟨scheme, hscheme, hweb, rfl⟩ := baseUrl_eq_ok_iff.1 h
  rw [String.toList_ofList]
  obtain ⟨slashes, htext, hslashes⟩ := exists_eq_dropSlashes_append config.address
  obtain ⟨rest, hrest⟩ := Url.exists_cleanStart_eq config.address
  have hhost : Url.NamesHost scheme (Url.cleanStart config.address) := by
    rw [hrest]
    exact (Url.namesHost_of_scheme hscheme hweb).append rest
  rw [htext] at hhost
  have hfilter : ∀ c ∈ slashes.filter (!Url.isIgnored ·), c = '/' :=
    fun c hc => hslashes c (List.mem_filter.1 hc).1
  by_cases houter : (dropSlashes config.address).dropWhile Url.isOuter = []
  · -- Nothing but slashes would be left.
    have hnone : Url.cleanStart (dropSlashes config.address ++ slashes) =
        [] ++ (slashes.dropWhile Url.isOuter).filter (!Url.isIgnored ·) := by
      rw [Url.cleanStart, List.dropWhile_append, houter]
      rfl
    rw [hnone] at hhost
    have hempty : Url.NamesHost scheme [] := hhost.of_append_slashes fun c hc =>
      hslashes c ((List.dropWhile_suffix _).subset (List.mem_filter.1 hc).1)
    generalize hnil : ([] : List Char) = text at hempty
    cases hempty
    simp at hnil
  · refine ⟨houter, scheme, hweb, ?_⟩
    rw [Url.cleanStart_append houter] at hhost
    exact hhost.of_append_slashes hfilter

end Config

namespace Call

/-- What is appended for a query is nothing, or begins with a question mark. -/
lemma querySuffix_eq (query : Option Json) :
    querySuffix query = "" ∨ ∃ text, querySuffix query = "?" ++ text := by
  unfold querySuffix
  split
  · split
    · exact Or.inl rfl
    · exact Or.inr ⟨_, rfl⟩
  · exact Or.inl rfl

/-- The address of a request goes on from a base with a text, in such a way that nothing of the text
belongs to the host. -/
structure ExtendsBase (base text : String) (url : String) : Prop where
  /-- The text is appended to the base. -/
  url_eq : url = base ++ text
  /-- It begins with a slash. -/
  rooted : text.toList.head? = some '/'
  /-- The base has no query and no fragment. -/
  unmarked : '?' ∉ base.toList ∧ '#' ∉ base.toList
  /-- The scheme and the host of the base are those of the address, and its path is the beginning of
  that of the address; it goes on with the text, up to the first mark in it. -/
  parts : ∃ p : Url.Parts, Url.parts? (Url.cleanStart base.toList) = some p ∧
    (p.scheme = "http" ∨ p.scheme = "https") ∧ p.authority ≠ [] ∧ p.further = [] ∧
    Url.parts? (Url.clean url.toList) = some { p with
      path := p.path ++ (Url.cleanEnd text.toList).takeWhile (!Url.endsPath ·)
      further := (Url.cleanEnd text.toList).dropWhile (!Url.endsPath ·) }

/-- A text that begins with a slash extends a base that has no mark of a query or a fragment. -/
lemma extendsBase_append {config : Config} {base text : String} (hbase : config.baseUrl = .ok base)
    (htext : text.toList.head? = some '/') (hunmarked : '?' ∉ base.toList ∧ '#' ∉ base.toList) :
    ExtendsBase base text (base ++ text) := by
  obtain ⟨houter, scheme, hweb, hhost⟩ := config.namesHost_baseUrl hbase
  obtain ⟨hend, hhead⟩ := Url.head?_cleanEnd_of_slash htext
  have hmarks : ∀ c ∈ Url.cleanStart base.toList, Url.endsPath c = false := by
    intro c hc
    have hmem : c ∈ base.toList := (List.dropWhile_suffix _).subset (List.mem_filter.1 hc).1
    have hquestion : c ≠ '?' := fun heq => hunmarked.1 (heq ▸ hmem)
    have hnumber : c ≠ '#' := fun heq => hunmarked.2 (heq ▸ hmem)
    simp [Url.endsPath, hquestion, hnumber]
  obtain ⟨p, hp, hscheme, hauthority, hfurther, hparts⟩ := hhost.parts?_append hmarks hhead
  refine ⟨rfl, htext, hunmarked, p, hp, hscheme ▸ hweb, hauthority, hfurther, ?_⟩
  rw [String.toList_append, Url.clean_append houter hend]
  exact hparts

end Call

namespace Blueprint

variable {strict : Bool} {document : Document} {blueprint : Blueprint}

/-- The address of every request that a call sends consists of the configured address, the path of
an operation and the query.  If the path begins with a slash and the configured address has no mark
of a query or a fragment, then the request goes to the configured host. -/
theorem requests_extend_base (h : ofDocument strict document = .ok blueprint) {config : Config}
    {base : String} (hbase : config.baseUrl = .ok base) {send : Request → Except Fault Reply}
    {route : List String} {method : String} {input : CallInput} {request : Request}
    (hsent : request ∈ (Call.run blueprint config send route method input).sent) :
    ∃ e search, blueprint.tree.endpoint? route method = some e ∧
      (∃ s ∈ document.sites, e.path = s.path) ∧
      request.url = base ++ (e.path ++ search) ∧
      (search = "" ∨ ∃ query, search = "?" ++ query) ∧
      (e.path.toList.head? = some '/' →
        (∀ url, config.apiUrl = some url → '?' ∉ url.toList ∧ '#' ∉ url.toList) →
        Call.ExtendsBase base (e.path ++ search) request.url) := by
  obtain ⟨schemas, -, hschemas, -⟩ := ofDocument_eq_ok_iff.1 h
  obtain ⟨pairs, routes, hassembled⟩ := exists_assembled h hschemas
  obtain ⟨e, hfound, hprepare, -⟩ := Call.exists_prepared_of_sent hsent
  obtain ⟨base', query, body, hbase', -, -, rfl⟩ := Call.prepare_eq_ok_iff.1 hprepare
  obtain rfl : base = base' := Except.ok.inj (hbase.symm.trans hbase')
  obtain ⟨s, hs, -, hdeclared⟩ := hassembled.exists_declaredIn_of_at? hfound
  have hurl : base ++ e.path ++ Call.querySuffix query =
      base ++ (e.path ++ Call.querySuffix query) := String.append_assoc ..
  refine ⟨e, Call.querySuffix query, hfound, ⟨s, hs, hdeclared.isEndpoint.path_eq⟩, hurl,
    Call.querySuffix_eq query, fun hrooted hmarks => ?_⟩
  have hhead : (e.path ++ Call.querySuffix query).toList.head? = some '/' := by
    rw [String.toList_append, List.head?_append, hrooted]
    rfl
  rw [hurl]
  exact Call.extendsBase_append hbase hhead (Config.unmarked_baseUrl hbase hmarks)

/-- A description of two operations, of which the first has a path that begins with a slash. -/
def usersDocument : Document where
  components := some { schemas := some [] }
  paths := [("/users", { operations := [("get", {})] }),
    (".other.example/users", { operations := [("get", {})] })]

/-- The endpoint at a path without a schema. -/
def plainEndpoint (path : String) : Endpoint := { method := "get", path }

/-- The blueprint of the two operations. -/
def usersBlueprint : Blueprint where
  components := []
  inline := []
  tree := .node [] [
    ("users", .node [("get", plainEndpoint "/users")] []),
    (".other.example", .node [] [
      ("users", .node [("get", plainEndpoint ".other.example/users")] [])])]

/-- The description of the two operations has its blueprint. -/
lemma ofDocument_usersDocument : ofDocument false usersDocument = .ok usersBlueprint := by
  cbv

/-- The request of an endpoint without a schema, if no token is configured. -/
def plainRequest (url : String) : Request where
  method := "GET"
  url
  headers := [("Content-Type", "application/json")]
  body := none

/-- The path of the first operation goes on with the configured path, on the configured host. -/
theorem users_extend_base :
    ofDocument false usersDocument = .ok usersBlueprint ∧
      Config.baseUrl { apiUrl := some " https://api.example/v1/ " } =
        .ok "https://api.example/v1" ∧
      ∀ send, plainRequest "https://api.example/v1/users" ∈
          (Call.run usersBlueprint { apiUrl := some " https://api.example/v1/ " } send ["users"]
            "get" {}).sent ∧
        Call.ExtendsBase "https://api.example/v1" "/users" "https://api.example/v1/users" := by
  have hbase : Config.baseUrl { apiUrl := some " https://api.example/v1/ " } =
      .ok "https://api.example/v1" := by cbv
  refine ⟨ofDocument_usersDocument, hbase, fun send => ?_⟩
  have hsent : plainRequest "https://api.example/v1/users" ∈
      (Call.run usersBlueprint { apiUrl := some " https://api.example/v1/ " } send ["users"]
        "get" {}).sent := by
    simp only [Call.run, Call.prepare, hbase]
    exact List.mem_singleton_self _
  refine ⟨hsent, ?_⟩
  obtain ⟨e, search, hfound, -, hurl, -, hextends⟩ :=
    requests_extend_base ofDocument_usersDocument hbase hsent
  obtain rfl : plainEndpoint "/users" = e := Option.some_inj.1 hfound
  have htext : "/users" = (plainEndpoint "/users").path ++ search :=
    (String.append_right_inj "https://api.example/v1").1 hurl
  rw [← htext] at hextends
  exact hextends rfl fun url h => Option.some_inj.1 h ▸ by decide

/-- The path of the second operation becomes part of the host: the request goes to a host that is
not the configured one.  And a configured address that has a query makes a query of every path. -/
theorem unrooted_path_leaves_host :
    ofDocument false usersDocument = .ok usersBlueprint ∧
      (Config.baseUrl { apiUrl := some "https://api.example" } = .ok "https://api.example" ∧
        (∀ send, (Call.run usersBlueprint { apiUrl := some "https://api.example" } send
          [".other.example", "users"] "get" {}).sent =
            [plainRequest "https://api.example.other.example/users"]) ∧
        (¬∃ text : String, text.toList.head? = some '/' ∧
          "https://api.example.other.example/users" = "https://api.example" ++ text) ∧
        (Url.parts? (Url.clean "https://api.example.other.example/users".toList)).map
          Url.Parts.authority = some "api.example.other.example".toList) ∧
      Config.baseUrl { apiUrl := some "https://api.example?v=1" } =
        .ok "https://api.example?v=1" ∧
      '?' ∈ "https://api.example?v=1".toList := by
  have hbase : Config.baseUrl { apiUrl := some "https://api.example" } =
      .ok "https://api.example" := by cbv
  refine ⟨ofDocument_usersDocument, ⟨hbase, fun send => ?_, ?_, by cbv⟩, by cbv, by decide⟩
  · simp only [Call.run, Call.prepare, hbase]
    rfl
  · rintro ⟨text, hhead, htext⟩
    have hrest : ".other.example/users" = text :=
      (String.append_right_inj "https://api.example").1 htext
    rw [← hrest] at hhead
    exact absurd hhead (by decide)

end Blueprint

end TypedClient
