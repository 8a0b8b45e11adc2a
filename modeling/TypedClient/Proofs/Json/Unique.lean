import TypedClient.Json.Reader
import TypedClient.Proofs.Induction
import TypedClient.Proofs.Outcome

/-!
# Objects are tables

In the values that are read, no object has two members of one name
(`Json.keysUnique_of_parse?`): a member that is repeated takes the place of the one before.
-/

namespace TypedClient.Json

/-- No object of a value has two members of one name. -/
inductive KeysUnique : Json → Prop where
  | intro {value : Json} (hkeys : ∀ members, value = .object members → (Entries.keys members).Nodup)
    (hparts : ∀ part ∈ value.parts, KeysUnique part) : KeysUnique value

/-! ## Tokens -/

/-- The values of tokens have no repeated names. -/
def TokensUnique (tokens : List Token) : Prop :=
  ∀ value, Token.literal value ∈ tokens → value.KeysUnique

/-- A value without parts that is no object has no repeated names. -/
lemma keysUnique_of_isScalar {value : Json} (hobject : ∀ members, value ≠ .object members)
    (hparts : value.parts = []) : value.KeysUnique :=
  .intro (fun members h => absurd h (hobject members)) (by simp [hparts])

/-- A token whose value has no repeated names is one more. -/
lemma tokensUnique_cons {token : Token} {tokens : List Token} (h : TokensUnique tokens)
    (htoken : ∀ value, token = .literal value → value.KeysUnique) :
    TokensUnique (token :: tokens) := by
  intro value hmem
  rcases List.mem_cons.1 hmem with heq | hmem
  · exact htoken value heq.symm
  · exact h value hmem

/-- The value of a number or a word has no names at all. -/
lemma keysUnique_of_bareToken {text : List Char} {value : Json}
    (h : bareToken text = some (.literal value)) : value.KeysUnique := by
  unfold bareToken at h
  split at h
  · cases h
    exact keysUnique_of_isScalar nofun rfl
  split at h
  · cases h
    exact keysUnique_of_isScalar nofun rfl
  split at h
  · cases h
    exact keysUnique_of_isScalar nofun rfl
  obtain ⟨n, -, hn⟩ := Option.map_eq_some_iff.1 h
  cases hn
  exact keysUnique_of_isScalar nofun rfl

/-- A character between tokens adds no value. -/
lemma tokensUnique_scanBetween {tokens tokens' : List Token} {scan : Scan} {c : Char}
    (h : TokensUnique tokens) (hscan : scanBetween tokens c = some (tokens', scan)) :
    TokensUnique tokens' := by
  unfold scanBetween at hscan
  split at hscan
  · cases hscan
    exact h
  split at hscan
  · cases hscan
    exact h
  split at hscan
  · cases hscan
    exact h
  obtain ⟨token, htoken, heq⟩ := Option.map_eq_some_iff.1 hscan
  cases heq
  refine tokensUnique_cons h ?_
  rintro value rfl
  unfold punctuation? at htoken
  split at htoken <;> cases htoken

/-- A character adds no value with repeated names. -/
lemma tokensUnique_scanChar {state state' : List Token × Scan} {c : Char}
    (h : TokensUnique state.1) (hscan : scanChar state c = some state') :
    TokensUnique state'.1 := by
  obtain ⟨tokens, scan⟩ := state
  obtain ⟨tokens', scan'⟩ := state'
  cases scan with
  | between => exact tokensUnique_scanBetween h hscan
  | bare taken =>
    rw [scanChar] at hscan
    split at hscan
    · cases hscan
      exact h
    · obtain ⟨token, htoken, hscan⟩ := Option.bind_eq_some_iff.1 hscan
      refine tokensUnique_scanBetween (tokensUnique_cons h ?_) hscan
      rintro value rfl
      exact keysUnique_of_bareToken htoken
  | quoted taken =>
    rw [scanChar] at hscan
    split at hscan
    · cases hscan
      refine tokensUnique_cons h ?_
      rintro value ⟨⟩
      exact keysUnique_of_isScalar nofun rfl
    · split at hscan
      · cases hscan
        exact h
      · split at hscan
        · cases hscan
        · cases hscan
          exact h
  | escape taken =>
    rw [scanChar] at hscan
    split at hscan
    · cases hscan
      exact h
    · obtain ⟨e, -, heq⟩ := Option.map_eq_some_iff.1 hscan
      cases heq
      exact h
  | unicode taken missing value high =>
    obtain ⟨d, -, hscan⟩ := Option.bind_eq_some_iff.1 hscan
    split at hscan
    · obtain ⟨s, -, heq⟩ := Option.map_eq_some_iff.1 hscan
      cases heq
      exact h
    · cases hscan
      exact h
  | highSurrogate taken high =>
    rw [scanChar] at hscan
    split at hscan
    · cases hscan
      exact h
    · cases hscan
  | lowEscape taken high =>
    rw [scanChar] at hscan
    split at hscan
    · cases hscan
      exact h
    · cases hscan

/-- The values of the tokens of a text have no repeated names. -/
lemma tokensUnique_of_tokens? {text : List Char} {tokens : List Token}
    (h : tokens? text = some tokens) : TokensUnique tokens := by
  have hstart : TokensUnique ([], Scan.between).1 := nofun
  have hreverse : ∀ {tokens : List Token}, TokensUnique tokens → TokensUnique tokens.reverse :=
    fun h value hmem => h value (List.mem_reverse.1 hmem)
  have hfold : ∀ state, text.foldlM scanChar ([], Scan.between) = some state →
      TokensUnique state.1 := fun _ hstate =>
    Option.foldlM_induction (fun state => TokensUnique state.1)
      (fun _ _ _ _ hstep => tokensUnique_scanChar hstep) hstart hstate
  unfold tokens? at h
  split at h
  · next hstate =>
    cases h
    exact hreverse (hfold _ hstate)
  · next hstate =>
    obtain ⟨token, htoken, rfl⟩ := Option.map_eq_some_iff.1 h
    refine hreverse (tokensUnique_cons (hfold _ hstate) ?_)
    rintro value rfl
    exact keysUnique_of_bareToken htoken
  · cases h

/-! ## Values -/

/-- An array has no repeated names if its items have none. -/
lemma keysUnique_array_iff {items : List Json} :
    (array items).KeysUnique ↔ ∀ item ∈ items, item.KeysUnique :=
  ⟨fun ⟨_, hparts⟩ => hparts, fun h => .intro nofun h⟩

/-- An item more repeats no name. -/
lemma keysUnique_array_cons {item : Json} {items : List Json} (hitem : item.KeysUnique)
    (h : (array items).KeysUnique) : (array (item :: items)).KeysUnique :=
  keysUnique_array_iff.2 (List.forall_mem_cons.2 ⟨hitem, keysUnique_array_iff.1 h⟩)

/-- To put a member into an object repeats no name. -/
lemma keysUnique_put {members : Entries Json} {key : String} {value : Json}
    (h : (object members).KeysUnique) (hvalue : value.KeysUnique) :
    (object (members.put key value)).KeysUnique := by
  obtain ⟨hkeys, hparts⟩ := h
  refine .intro (fun _ hobject => ?_) fun part hpart => ?_
  · cases hobject
    exact Entries.nodup_keys_put (hkeys members rfl) key value
  · obtain ⟨member, hmember, rfl⟩ := List.mem_map.1 hpart
    rcases Entries.mem_of_mem_put hmember with hmember | rfl
    · exact hparts _ (List.mem_map_of_mem hmember)
    · exact hvalue

/-- What an open container holds has no repeated names. -/
def Frame.IsUnique : Frame → Prop
  | .array items => (Json.array items).KeysUnique
  | .object members _ => (Json.object members).KeysUnique

/-- What was read last has no repeated names. -/
def Expect.IsUnique : Expect → Prop
  | .firstKey members | .key members => (Json.object members).KeysUnique
  | .separator last => last.KeysUnique
  | _ => True

/-- Neither the open containers nor what was read last have repeated names. -/
def StateUnique (state : List Frame × Expect) : Prop :=
  (∀ frame ∈ state.1, frame.IsUnique) ∧ state.2.IsUnique

/-- A container without parts has no repeated names. -/
lemma keysUnique_empty : (array []).KeysUnique ∧ (object []).KeysUnique := by
  refine ⟨.intro nofun (by simp [parts]), .intro (fun _ h => ?_) (by simp [parts, Entries.values])⟩
  cases h
  exact List.nodup_nil

/-- A token whose value has no repeated names adds none. -/
lemma stateUnique_place {state state' : List Frame × Expect} {token : Token}
    (h : StateUnique state) (htoken : ∀ value, token = .literal value → value.KeysUnique)
    (hplace : place state token = some state') : StateUnique state' := by
  obtain ⟨frames, expect⟩ := state
  obtain ⟨hframes, hexpect⟩ := h
  have houter : ∀ frame ∈ frames.drop 1, frame.IsUnique := fun frame hframe =>
    hframes frame (List.mem_of_mem_drop hframe)
  have hpush : ∀ {frame : Frame} {next : Expect},
      (if frames.length < 127 then some (frame :: frames, next) else none) = some state' →
        frame.IsUnique → next.IsUnique → StateUnique state' := by
    intro frame next hpushed hframe hnext
    split at hpushed
    · cases hpushed
      exact ⟨List.forall_mem_cons.2 ⟨hframe, hframes⟩, hnext⟩
    · cases hpushed
  obtain ⟨harray, hobject⟩ := keysUnique_empty
  unfold place at hplace
  dsimp only at hplace hframes hexpect
  split at hplace
  -- A value, or the beginning of one.
  · cases hplace
    exact ⟨hframes, htoken _ rfl⟩
  · cases hplace
    exact ⟨hframes, htoken _ rfl⟩
  · exact hpush hplace harray trivial
  · exact hpush hplace harray trivial
  · exact hpush hplace hobject hobject
  · exact hpush hplace hobject hobject
  -- The end of an empty container, the name of a member, and what follows it.
  · cases hplace
    exact ⟨houter, harray⟩
  · cases hplace
    exact ⟨houter, hexpect⟩
  · cases hplace
    exact ⟨List.forall_mem_cons.2 ⟨hexpect, houter⟩, trivial⟩
  · cases hplace
    exact ⟨List.forall_mem_cons.2 ⟨hexpect, houter⟩, trivial⟩
  · cases hplace
    exact ⟨hframes, trivial⟩
  -- A comma and the two ends, which put the value into the innermost container.
  · split at hplace
    · next items outer =>
      cases hplace
      obtain ⟨hitems, hrest⟩ := List.forall_mem_cons.1 hframes
      exact ⟨List.forall_mem_cons.2 ⟨keysUnique_array_cons hexpect hitems, hrest⟩, trivial⟩
    · next members key outer =>
      cases hplace
      obtain ⟨hmembers, -⟩ := List.forall_mem_cons.1 hframes
      exact ⟨hframes, keysUnique_put hmembers hexpect⟩
    · cases hplace
  · split at hplace
    · next items outer =>
      cases hplace
      obtain ⟨hitems, hrest⟩ := List.forall_mem_cons.1 hframes
      have hmore := keysUnique_array_iff.1 (keysUnique_array_cons hexpect hitems)
      refine ⟨hrest, keysUnique_array_iff.2 fun item hitem => ?_⟩
      exact hmore item (List.mem_reverse.1 hitem)
    · cases hplace
  · split at hplace
    · next members key outer =>
      cases hplace
      obtain ⟨hmembers, hrest⟩ := List.forall_mem_cons.1 hframes
      exact ⟨hrest, keysUnique_put hmembers hexpect⟩
    · cases hplace
  · cases hplace

/-- In a value that is read, no object has two members of one name. -/
theorem keysUnique_of_parse? {text : String} {value : Json} (h : parse? text = some value) :
    value.KeysUnique := by
  unfold parse? at h
  split at h
  · next hread =>
    cases h
    obtain ⟨tokens, htokens, hfold⟩ := Option.bind_eq_some_iff.1 hread
    have hunique := tokensUnique_of_tokens? htokens
    have hstart : StateUnique ([], Expect.value) := ⟨by simp, trivial⟩
    have hend := Option.foldlM_induction StateUnique
      (fun _ token htoken _ hstate => stateUnique_place hstate fun value heq =>
        hunique value (heq ▸ htoken)) hstart hfold
    exact hend.2
  · cases h

end TypedClient.Json
