import TypedClient.Proofs.Call.Address
import TypedClient.Proofs.Url.Opening
import TypedClient.TypeScript.Preamble

/-!
# Two readings of a configuration

A client module checks its configuration itself: by `requireApiUrl`, which stands in the fixed part
of the module (`TypeScript.helpers`), and where a call function puts its headers together.  A call
without a module reads the same configuration by `Config.baseUrl` and `Config.bearer?`.

The two readings do not agree (`TypeScript.readings_differ`).  The module looks at the beginning of
the address only, `http://` or `https://`, so it accepts addresses whose host or port is wrong, and
it refuses those that are written without the slashes.  It trims other characters than a call does,
and of the token none at all.  `TypeScript.readings_compared` says how far they agree.
-/

namespace TypedClient

/-- An address that is not blank is reported with its flaw. -/
lemma Config.baseUrl_of_scheme_error {config : Config} {flaw : Url.Flaw} (hne : config.address ≠ [])
    (h : Url.scheme config.address = .error flaw) :
    config.baseUrl = .error (.malformed (String.ofList config.address) flaw) := by
  unfold baseUrl
  rw [← address]
  obtain ⟨c, rest, htext⟩ := List.exists_cons_of_ne_nil hne
  rw [htext] at h ⊢
  dsimp only
  rw [h]

/-! ## What a module makes of a configuration -/

namespace TypeScript

/-- Whether `trim` of a script takes a character for blank: the byte order mark, too, but not the
control character for the next line. -/
def isScriptBlank (c : Char) : Bool := c == '\uFEFF' || (Text.isBlank c && c != '\u0085')

/-- What `trim` of a script leaves of a text. -/
def scriptTrim (text : List Char) : List Char :=
  ((text.dropWhile isScriptBlank).reverse.dropWhile isScriptBlank).reverse

/-- Whether a text matches `/^https?:\/\//i`. -/
def hasWebPrefix (text : List Char) : Bool :=
  let low := text.map Char.toLower
  ("http".toList ++ "://".toList).isPrefixOf low || ("https".toList ++ "://".toList).isPrefixOf low

/-- The text of the configured address, as a script trims it. -/
def scriptAddress (config : Config) : List Char :=
  scriptTrim ((config.apiUrl.map String.toList).getD [])

/-- What the function `requireApiUrl` of a module returns; none if it throws. -/
def requireApiUrl (config : Config) : Option String :=
  if hasWebPrefix (scriptAddress config) then
    some (String.ofList (Config.dropSlashes (scriptAddress config)))
  else none

/-- What a call function of a module hands over as `Authorization`; none if it leaves the header
out. -/
def authorization (config : Config) : Option String :=
  (config.accessToken.filter fun token => !token.isEmpty).map ("Bearer " ++ ·)

variable {config : Config}

/-- Two classes of characters that agree on the characters of a text cut the same off its start. -/
lemma dropWhile_eq_of_agree {p q : Char → Bool} {text : List Char}
    (h : ∀ c ∈ text, p c = q c) : text.dropWhile p = text.dropWhile q := by
  induction text with
  | nil => rfl
  | cons c rest ih =>
    rw [List.forall_mem_cons] at h
    rw [List.dropWhile_cons, List.dropWhile_cons, h.1, ih h.2]

/-- A text that has none of the two characters is trimmed alike. -/
lemma scriptTrim_eq_trim {text : List Char} (hmark : '\uFEFF' ∉ text) (hnext : '\u0085' ∉ text) :
    scriptTrim text = Text.trim text := by
  have hagree : ∀ c ∈ text, isScriptBlank c = Text.isBlank c := by
    intro c hc
    have hne : c ≠ '\uFEFF' := fun heq => hmark (heq ▸ hc)
    have hne' : c ≠ '\u0085' := fun heq => hnext (heq ▸ hc)
    rw [isScriptBlank, beq_false_of_ne hne, Bool.false_or, bne_iff_ne.2 hne', Bool.and_true]
  have hstart := dropWhile_eq_of_agree hagree
  have hend : (text.dropWhile Text.isBlank).reverse.dropWhile isScriptBlank =
      (text.dropWhile Text.isBlank).reverse.dropWhile Text.isBlank := by
    apply dropWhile_eq_of_agree
    intro c hc
    exact hagree c ((List.dropWhile_suffix _).subset (List.mem_reverse.1 hc))
  rw [scriptTrim, hstart, hend]
  rfl

/-- A text has the prefix if and only if it begins with a scheme of the web and two slashes. -/
lemma hasWebPrefix_iff {text : List Char} :
    hasWebPrefix text = true ↔
      ∃ scheme, (scheme = "http" ∨ scheme = "https") ∧ Url.OpensWith scheme text := by
  rw [hasWebPrefix, Bool.or_eq_true, List.isPrefixOf_iff_prefix, List.isPrefixOf_iff_prefix,
    Url.prefix_map_toLower_iff, Url.prefix_map_toLower_iff]
  simp

/-- The address that a module appends paths to, if the configured address is trimmed as it is for a
call. -/
lemma requireApiUrl_eq_some_iff {base : String} (htrim : scriptAddress config = config.address) :
    requireApiUrl config = some base ↔
      (∃ scheme, (scheme = "http" ∨ scheme = "https") ∧ Url.OpensWith scheme config.address) ∧
        base = String.ofList (Config.dropSlashes config.address) := by
  rw [requireApiUrl, htrim, ← hasWebPrefix_iff]
  split
  · next hprefix => rw [Option.some_inj, eq_comm, and_iff_right hprefix]
  · next hprefix =>
    constructor
    · rintro ⟨⟩
    · rintro ⟨h, -⟩
      exact absurd h hprefix

/-- What a module hands over as `Authorization` is what a call sends if and only if the token has no
blanks around it. -/
lemma authorization_eq_bearer?_iff :
    authorization config = config.bearer? ↔
      ∀ token, config.accessToken = some token → Text.trim token.toList = token.toList := by
  rw [authorization, Config.bearer?]
  cases config.accessToken with
  | none => simp [Text.trim, Text.trimEnd]
  | some token =>
    rw [Option.map_some, Option.getD_some]
    have hall : (∀ t, some token = some t → Text.trim t.toList = t.toList) ↔
        Text.trim token.toList = token.toList := by simp
    rw [hall]
    by_cases hempty : token.isEmpty = true
    · obtain rfl := String.isEmpty_iff.1 hempty
      simp [Text.trim, Text.trimEnd]
    · have hsome : (some token).filter (fun token => !token.isEmpty) = some token := by
        rw [Option.filter_some, if_pos (by simpa using hempty)]
      rw [hsome, Option.map_some]
      cases htrim : Text.trim token.toList with
      | nil =>
        constructor
        · rintro ⟨⟩
        · intro hnil
          exact absurd (String.isEmpty_iff.2 (String.toList_eq_nil_iff.1 hnil.symm)) hempty
      | cons c rest =>
        dsimp only
        rw [Option.some_inj, String.append_right_inj, ← String.toList_inj, String.toList_ofList,
          eq_comm]

/-- The header `Authorization` of a request is the one that the configuration says. -/
lemma header?_of_sent {blueprint : Blueprint} {send : Request → Except Fault Reply}
    {route : List String} {method : String} {input : CallInput} {request : Request}
    (hsent : request ∈ (Call.run blueprint config send route method input).sent) :
    request.header? "Authorization" = config.bearer? := by
  obtain ⟨e, -, hprepare, -⟩ := Call.exists_prepared_of_sent hsent
  obtain ⟨base, query, body, -, -, -, rfl⟩ := Call.prepare_eq_ok_iff.1 hprepare
  have hother : (Text.asciiLower "Content-Type" == Text.asciiLower "Authorization") = false := by
    decide
  rw [Request.header?, Call.headers, List.find?_cons, hother]
  cases config.bearer? with
  | none => rfl
  | some bearer => simp

/-- What a module accepts as an address, a call accepts too, to the same effect, unless the host or
the port is wrong. -/
lemma baseUrl_of_requireApiUrl (htrim : scriptAddress config = config.address) {base : String}
    (h : requireApiUrl config = some base) :
    config.baseUrl = .ok base ∨
      ∃ flaw, flaw ≠ .noScheme ∧
        config.baseUrl = .error (.malformed (String.ofList config.address) flaw) := by
  obtain ⟨⟨scheme, hweb, hopens⟩, rfl⟩ := (requireApiUrl_eq_some_iff htrim).1 h
  rcases Url.scheme_of_opensWith hopens hweb with hscheme | ⟨flaw, hflaw, hscheme⟩
  · exact Or.inl (Config.baseUrl_eq_ok_iff.2 ⟨scheme, hscheme, hweb, rfl⟩)
  · have hne : config.address ≠ [] := by
      obtain ⟨name, rest, htext, -⟩ := hopens
      rw [htext]
      simp
    exact Or.inr ⟨flaw, hflaw, Config.baseUrl_of_scheme_error hne hscheme⟩

/-- What a call accepts as an address, a module accepts, to the same effect, if and only if two
slashes follow the scheme in the text as it stands. -/
lemma exists_scheme_of_baseUrl (htrim : scriptAddress config = config.address) {base : String}
    (h : config.baseUrl = .ok base) :
    ∃ scheme, Url.scheme config.address = .ok scheme ∧
      (requireApiUrl config = some base ↔ Url.OpensWith scheme config.address) := by
  obtain ⟨scheme, hscheme, hweb, hbase⟩ := Config.baseUrl_eq_ok_iff.1 h
  refine ⟨scheme, hscheme, ?_⟩
  rw [requireApiUrl_eq_some_iff htrim]
  constructor
  · rintro ⟨⟨scheme', hweb', hopens⟩, -⟩
    rcases Url.scheme_of_opensWith hopens hweb' with hscheme' | ⟨flaw, -, hscheme'⟩
    · obtain rfl : scheme = scheme' := Except.ok.inj (hscheme.symm.trans hscheme')
      exact hopens
    · rw [hscheme] at hscheme'
      cases hscheme'
  · intro hopens
    exact ⟨⟨scheme, hweb, hopens⟩, hbase⟩

/-- How far a module and a call agree on a configuration.

Let its address be trimmed alike.  What a module accepts as an address, a call accepts too, to the
same effect, unless the host or the port is wrong.  What a call accepts, a module accepts, to the
same effect, if and only if two slashes follow the scheme in the text as it stands.

Of every request that a call sends, the header `Authorization` is what a module hands over if and
only if the token has no blanks around it. -/
theorem readings_compared (config : Config) :
    (scriptAddress config = config.address →
      (∀ base, requireApiUrl config = some base →
        config.baseUrl = .ok base ∨
          ∃ flaw, flaw ≠ .noScheme ∧
            config.baseUrl = .error (.malformed (String.ofList config.address) flaw)) ∧
      ∀ base, config.baseUrl = .ok base →
        ∃ scheme, Url.scheme config.address = .ok scheme ∧
          (requireApiUrl config = some base ↔ Url.OpensWith scheme config.address)) ∧
    ∀ (blueprint : Blueprint) (send : Request → Except Fault Reply) (route : List String)
      (method : String) (input : CallInput),
      ∀ request ∈ (Call.run blueprint config send route method input).sent,
        (request.header? "Authorization" = authorization config ↔
          ∀ token, config.accessToken = some token →
            Text.trim token.toList = token.toList) := by
  refine ⟨fun htrim => ⟨?_, ?_⟩, ?_⟩
  · exact fun base h => baseUrl_of_requireApiUrl htrim h
  · exact fun base h => exists_scheme_of_baseUrl htrim h
  · intro blueprint send route method input request hsent
    rw [header?_of_sent hsent, eq_comm]
    exact authorization_eq_bearer?_iff

/-- A configuration with capitals in the scheme and blanks around the address. -/
def spacedConfig : Config where
  accessToken := some "abc"
  apiUrl := some " HTTPS://api.example/v1/ "

/-- A module and a call agree on this configuration. -/
theorem spaced_readings_agree :
    scriptAddress spacedConfig = spacedConfig.address ∧
      spacedConfig.baseUrl = .ok "HTTPS://api.example/v1" ∧
      requireApiUrl spacedConfig = some "HTTPS://api.example/v1" ∧
      ∀ send, ∀ request ∈ (Call.run Blueprint.usersBlueprint spacedConfig send ["users"] "get"
          {}).sent,
        request.header? "Authorization" = authorization spacedConfig := by
  have htrim : scriptAddress spacedConfig = spacedConfig.address := by
    apply scriptTrim_eq_trim <;> decide
  have hbase : spacedConfig.baseUrl = .ok "HTTPS://api.example/v1" := by cbv
  obtain ⟨hreadings, hheader⟩ := readings_compared spacedConfig
  obtain ⟨-, haddress⟩ := hreadings htrim
  obtain ⟨scheme, hscheme, hiff⟩ := haddress _ hbase
  obtain rfl : "https" = scheme := Except.ok.inj (Eq.trans (by cbv) hscheme)
  refine ⟨htrim, hbase, hiff.2 ?_, fun send request hsent => ?_⟩
  · exact ⟨"HTTPS".toList, "api.example/v1/".toList, by cbv, by cbv⟩
  · refine (hheader _ _ _ _ _ request hsent).2 fun token h => ?_
    rw [← Option.some_inj.1 h]
    cbv

/-- A module and a call do not agree on an address without slashes, on one without a host, on one
behind a byte order mark, and on a token of blanks. -/
theorem readings_differ :
    "  if (!/^https?:\\/\\//i.test(apiUrl)) \x7b" ∈ helpers ∧
    (Config.baseUrl { apiUrl := some "http:example.com" } = .ok "http:example.com" ∧
      requireApiUrl { apiUrl := some "http:example.com" } = none) ∧
    (Config.baseUrl { apiUrl := some "http://" } = .error (.malformed "http://" .emptyHost) ∧
      requireApiUrl { apiUrl := some "http://" } = some "http:") ∧
    (Config.baseUrl { apiUrl := some "\uFEFFhttp://api.example" } =
        .error (.malformed "\uFEFFhttp://api.example" .noScheme) ∧
      requireApiUrl { apiUrl := some "\uFEFFhttp://api.example" } = some "http://api.example") ∧
    (∀ send, (Call.run Blueprint.usersBlueprint
          { accessToken := some "  ", apiUrl := some "https://api.example" } send ["users"] "get"
          {}).sent.map (·.header? "Authorization") = [none]) ∧
      authorization { accessToken := some "  ", apiUrl := some "https://api.example" } =
        some "Bearer   " := by
  refine ⟨by decide +kernel, ⟨by cbv, rfl⟩, ⟨by cbv, by cbv⟩, ⟨by cbv, by cbv⟩, fun send => ?_,
    by cbv⟩
  have hbase : Config.baseUrl { accessToken := some "  ", apiUrl := some "https://api.example" } =
      .ok "https://api.example" := by cbv
  simp only [Call.run, Call.prepare, hbase]
  rfl

end TypeScript

end TypedClient
