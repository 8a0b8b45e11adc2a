import TypedClient.Proofs.Outcome
import TypedClient.Proofs.Schema.Uniform
import TypedClient.Proofs.Validator.Acceptance

/-!
# What is parsed is parsed to itself

A validator is stable at a value if it leaves what it makes of the value as it is, down to the order
of the members (`Validator.Stable`).  Not every validator is: the first member of a union that
accepts a value may make something of it that an earlier member accepts, and changes again.

The validators of uniform schemas are stable (`Schema.stable_validator`).  In a union of plain
schemas, a member that changes a value keeps its type, and only an array looks further than at the
type.  As all arrays among the members have one schema for their items, an earlier member that
refuses the value refuses the result as well (`Schema.not_partAdmits_of_parsed`).
-/

namespace TypedClient

namespace Validator

variable {registry : Registry} {trail : List String} {value : Json}

/-- What a validator makes of a value, it leaves as it is. -/
def Stable (registry : Registry) (trail : List String) (v : Validator) (value : Json) : Prop :=
  ∀ w, v.parseFrom registry trail value = .ok w → v.parseFrom registry trail w = .ok w

/-! ## Values without parts -/

/-- The test for a type yields the value. -/
lemma eq_of_expectType {expected : String} {w : Json} (h : expectType expected value = .ok w) :
    w = value := by
  unfold expectType at h
  split at h
  · exact (Except.ok.inj h).symm
  · cases h

/-- A validator that yields the value itself is stable. -/
lemma stable_of_eq {v : Validator}
    (h : ∀ w, v.parseFrom registry trail value = .ok w → w = value) :
    v.Stable registry trail value := by
  intro w hw
  obtain rfl := h w hw
  exact hw

/-- A validator that accepts anything is stable. -/
lemma stable_any : any.Stable registry trail value := by
  refine stable_of_eq fun w hw => ?_
  rw [parseFrom] at hw
  exact (Except.ok.inj hw).symm

/-- What comes of a value where `null` is accepted as well. -/
lemma parseFrom_orNull_eq_ok {notes : Notes} {v : Validator} {w : Json}
    (h : (Schema.orNull notes v).parseFrom registry trail value = .ok w) :
    (value = .null ∧ w = .null) ∨ v.parseFrom registry trail value = .ok w := by
  by_cases hnull : notes.nullable = true ∧ value = .null
  · obtain ⟨hnullable, rfl⟩ := hnull
    rw [parseFrom_orNull_null hnullable] at h
    exact Or.inl ⟨rfl, (Except.ok.inj h).symm⟩
  · rw [parseFrom_orNull hnull] at h
    exact Or.inr h

/-- To accept `null` as well keeps a validator stable. -/
lemma stable_orNull {v : Validator} (notes : Notes) (h : v.Stable registry trail value) :
    (Schema.orNull notes v).Stable registry trail value := by
  intro w hw
  by_cases hnull : notes.nullable = true ∧ w = .null
  · obtain ⟨hnullable, rfl⟩ := hnull
    exact parseFrom_orNull_null hnullable v
  · rw [parseFrom_orNull hnull]
    obtain ⟨rfl, rfl⟩ | hw' := parseFrom_orNull_eq_ok hw
    · exact h _ ((parseFrom_orNull hnull v).symm.trans hw)
    · exact h w hw'

/-! ## Arrays -/

/-- Parsed items are parsed to themselves, if each of them is. -/
lemma parseItems_of_parseItems {items : Validator} {values ws : List Json}
    (hvalues : ∀ v ∈ values, items.Stable registry [] v) {index : Nat}
    (h : parseItems registry items index values = .ok ws) :
    parseItems registry items index ws = .ok ws := by
  induction values generalizing index ws with
  | nil =>
    rw [parseItems] at h
    obtain rfl := Except.ok.inj h
    rw [parseItems]
  | cons v rest ih =>
    rw [List.forall_mem_cons] at hvalues
    obtain ⟨hv, hrest⟩ := hvalues
    rw [parseItems] at h
    split at h
    · cases h
    · next parsed hparsed =>
      obtain ⟨more, hmore, rfl⟩ := Except.map_eq_ok_iff.1 h
      rw [parseItems, hv parsed hparsed]
      exact Except.map_eq_ok_iff.2 ⟨more, ih hrest hmore, rfl⟩

/-- Items of which anything is accepted are left as they are. -/
lemma eq_of_parseItems_any {values ws : List Json} {index : Nat}
    (h : parseItems registry any index values = .ok ws) : ws = values := by
  induction values generalizing index ws with
  | nil =>
    rw [parseItems] at h
    exact (Except.ok.inj h).symm
  | cons v rest ih =>
    rw [parseItems, parseFrom] at h
    obtain ⟨more, hmore, rfl⟩ := Except.map_eq_ok_iff.1 h
    rw [ih hmore]

/-- What an array validator makes of a value. -/
lemma parseFrom_array_eq_ok {items : Validator} {w : Json}
    (h : (array items).parseFrom registry trail value = .ok w) :
    ∃ values ws, value = .array values ∧ parseItems registry items 0 values = .ok ws ∧
      w = .array ws := by
  cases value with
  | array values =>
    rw [parseFrom] at h
    obtain ⟨ws, hws, rfl⟩ := Except.map_eq_ok_iff.1 h
    exact ⟨values, ws, rfl, hws, rfl⟩
  | _ =>
    rw [parseFrom] at h
    · cases h
    · simp

/-- An array validator is stable, if the validator of the items is stable at the items. -/
lemma stable_array {items : Validator}
    (h : ∀ values, value = .array values → ∀ v ∈ values, items.Stable registry [] v) :
    (array items).Stable registry trail value := by
  intro w hw
  obtain ⟨values, ws, rfl, hws, rfl⟩ := parseFrom_array_eq_ok hw
  rw [parseFrom]
  exact Except.map_eq_ok_iff.2 ⟨ws, parseItems_of_parseItems (h values rfl) hws, rfl⟩

/-! ## Objects -/

/-- What comes of the declared members of an object: an entry for each field whose member is
present, in the order of the fields. -/
inductive Picks (registry : Registry) (members : Entries Json) :
    List (Field Validator) → Entries Json → Prop where
  | nil : Picks registry members [] []
  | present {f : Field Validator} {fields : List (Field Validator)} {v w : Json}
    {picked : Entries Json} (hv : members.get? f.name = some v)
    (hw : f.body.parseFrom registry [] v = .ok w) (hrest : Picks registry members fields picked) :
    Picks registry members (f :: fields) ((f.name, w) :: picked)
  | absent {f : Field Validator} {fields : List (Field Validator)} {picked : Entries Json}
    (hv : members.get? f.name = none) (hmissing : f.body.acceptsMissing registry [] = some true)
    (hrest : Picks registry members fields picked) : Picks registry members (f :: fields) picked

section Fields

variable {fields : List (Field Validator)} {members picked : Entries Json}

/-- The names of what is picked are names of fields. -/
lemma Picks.keys_subset (h : Picks registry members fields picked) :
    ∀ name ∈ picked.keys, name ∈ fields.map Field.name := by
  induction h with
  | nil => simp
  | present _ _ _ ih =>
    rw [Entries.keys_cons, List.forall_mem_cons]
    exact ⟨List.mem_cons_self, fun name hname => List.mem_cons_of_mem _ (ih name hname)⟩
  | absent _ _ _ ih => exact fun name hname => List.mem_cons_of_mem _ (ih name hname)

/-- A name that is followed by others and repeats none of those before it is new there, and stays
apart from the others when it has joined those before it. -/
lemma nodup_of_cons {out : Entries Json} {name : String} {names : List String} (w : Json)
    (h : (out.keys ++ name :: names).Nodup) :
    name ∉ out.keys ∧ (Entries.keys (out ++ [(name, w)]) ++ names).Nodup := by
  constructor
  · intro hmem
    exact (List.nodup_append.1 h).2.2 _ hmem _ List.mem_cons_self rfl
  · simpa [Entries.keys] using h

/-- Fields with different names pick the declared members, each once. -/
lemma exists_picks_of_parseFields {out result : Entries Json}
    (hnodup : (out.keys ++ fields.map Field.name).Nodup)
    (h : parseFields registry fields members out = .ok result) :
    ∃ picked, Picks registry members fields picked ∧ result = out ++ picked := by
  induction fields generalizing out with
  | nil =>
    rw [parseFields] at h
    exact ⟨[], .nil, by rw [List.append_nil]; exact (Except.ok.inj h).symm⟩
  | cons f rest ih =>
    rw [List.map_cons] at hnodup
    rw [parseFields] at h
    split at h
    · next v hv =>
      split at h
      · cases h
      · next w hw =>
        obtain ⟨hnew, hput⟩ := nodup_of_cons w hnodup
        rw [Entries.put_of_not_mem hnew] at h
        obtain ⟨picked, hpicked, rfl⟩ := ih hput h
        exact ⟨_, .present hv hw hpicked, by simp⟩
    · next hv =>
      have hnodup' : (out.keys ++ rest.map Field.name).Nodup :=
        hnodup.sublist (List.Sublist.append_left (List.sublist_cons_self _ _) _)
      split at h
      · next hmissing =>
        obtain ⟨picked, hpicked, rfl⟩ := ih hnodup' h
        exact ⟨picked, .absent hv hmissing hpicked, rfl⟩
      · cases h
      · cases h

/-- What fields pick is what they make of the members. -/
lemma Picks.parseFields_eq {out : Entries Json} (h : Picks registry members fields picked)
    (hnodup : (out.keys ++ fields.map Field.name).Nodup) :
    parseFields registry fields members out = .ok (out ++ picked) := by
  induction h generalizing out with
  | nil => rw [parseFields, List.append_nil]
  | @present f rest v w picked hv hw _ ih =>
    rw [List.map_cons] at hnodup
    obtain ⟨hnew, hput⟩ := nodup_of_cons w hnodup
    have hrest := ih hput
    rw [List.append_assoc] at hrest
    rw [parseFields]
    split
    · next v' hv' =>
      obtain rfl := Option.some_inj.1 (hv.symm.trans hv')
      rw [hw]
      dsimp only
      rw [Entries.put_of_not_mem hnew]
      exact hrest
    · next hnone => cases hv.symm.trans hnone
  | @absent f rest picked hv hmissing _ ih =>
    have hnodup' : (out.keys ++ rest.map Field.name).Nodup :=
      hnodup.sublist (List.Sublist.append_left (List.sublist_cons_self _ _) _)
    rw [parseFields]
    split
    · next v' hv' => cases hv.symm.trans hv'
    · rw [hmissing]
      exact ih hnodup'

/-- Fields pick from what they have picked the very same, if their validators are stable. -/
lemma Picks.picks_self (h : Picks registry members fields picked)
    (hnodup : (fields.map Field.name).Nodup)
    (hstable : ∀ f ∈ fields, ∀ v, members.get? f.name = some v → f.body.Stable registry [] v) :
    Picks registry picked fields picked := by
  -- The entries before the rest of what is picked do not matter to the rest of the fields.
  suffices h' : ∀ source : Entries Json,
      (∀ f ∈ fields, source.get? f.name = picked.get? f.name) →
        Picks registry source fields picked from h' picked fun _ _ => rfl
  induction h with
  | nil => exact fun _ _ => .nil
  | @present f rest v w picked hv hw hrest ih =>
    rw [List.map_cons, List.nodup_cons] at hnodup
    rw [List.forall_mem_cons] at hstable
    intro source hsource
    rw [List.forall_mem_cons] at hsource
    have hfirst : source.get? f.name = some w := by
      rw [hsource.1, Entries.get?, if_pos rfl]
    refine .present hfirst (hstable.1 v hv w hw) (ih hnodup.2 hstable.2 source fun g hg => ?_)
    have hne : f.name ≠ g.name := fun heq => hnodup.1 (heq ▸ List.mem_map_of_mem hg)
    rw [hsource.2 g hg, Entries.get?, if_neg hne]
  | @absent f rest picked hv hmissing hrest ih =>
    rw [List.map_cons, List.nodup_cons] at hnodup
    rw [List.forall_mem_cons] at hstable
    intro source hsource
    rw [List.forall_mem_cons] at hsource
    refine .absent ?_ hmissing (ih hnodup.2 hstable.2 source hsource.2)
    have hnot : f.name ∉ picked.keys := fun hmem => hnodup.1 (hrest.keys_subset _ hmem)
    rw [hsource.1, Option.eq_none_iff_forall_ne_some]
    exact fun x hx => hnot (Entries.mem_keys_of_get? hx)

end Fields

/-- What an object validator makes of a value. -/
lemma parseFrom_object_eq_ok {fields : List (Field Validator)} {mode : Mode} {w : Json}
    (h : (object fields mode).parseFrom registry trail value = .ok w) :
    ∃ members declared, value = .object members ∧
      parseFields registry fields members [] = .ok declared ∧
      closeObject mode (undeclared fields members) declared = .ok w := by
  cases value with
  | object members =>
    rw [parseFrom] at h
    split at h
    · cases h
    · next declared hdeclared => exact ⟨members, declared, rfl, hdeclared, h⟩
  | _ =>
    rw [parseFrom] at h
    · cases h
    · simp

/-- An object validator that does not keep undeclared members yields the declared ones. -/
lemma eq_of_closeObject {mode : Mode} (hmode : mode ≠ .passthrough) {extra declared : Entries Json}
    {w : Json} (h : closeObject mode extra declared = .ok w) : w = .object declared := by
  cases mode with
  | strip => exact (Except.ok.inj h).symm
  | strict =>
    rw [closeObject] at h
    split at h
    · exact (Except.ok.inj h).symm
    · cases h
  | passthrough => exact absurd rfl hmode

/-- An object validator that does not keep undeclared members is stable, if its fields have
different names and their validators are stable at the members. -/
lemma stable_object {fields : List (Field Validator)} {mode : Mode} (hmode : mode ≠ .passthrough)
    (hnodup : (fields.map Field.name).Nodup)
    (h : ∀ members, value = .object members → ∀ f ∈ fields, ∀ v,
      Entries.get? members f.name = some v → f.body.Stable registry [] v) :
    (object fields mode).Stable registry trail value := by
  intro w hw
  obtain ⟨members, declared, rfl, hdeclared, hclose⟩ := parseFrom_object_eq_ok hw
  obtain rfl := eq_of_closeObject hmode hclose
  obtain ⟨picked, hpicked, hresult⟩ := exists_picks_of_parseFields (by simpa using hnodup) hdeclared
  rw [List.nil_append] at hresult
  subst hresult
  have hagain : parseFields registry fields declared [] = .ok declared := by
    have hself := hpicked.picks_self hnodup (h members rfl)
    rw [hself.parseFields_eq (by simpa using hnodup), List.nil_append]
  have hextra : undeclared fields declared = [] :=
    undeclared_eq_nil_iff.2 hpicked.keys_subset
  rw [parseFrom, hagain, hextra]
  cases mode with
  | strip => rfl
  | strict => rfl
  | passthrough => exact absurd rfl hmode

/-- A validator of open objects keeps all members, in the order in which their names come first. -/
lemma parseFrom_openObject_eq_ok {w : Json}
    (h : openObject.parseFrom registry trail value = .ok w) :
    ∃ members, value = .object members ∧ w = .object (Entries.ofList members) := by
  obtain ⟨members, declared, rfl, hdeclared, hclose⟩ := parseFrom_object_eq_ok h
  rw [parseFields] at hdeclared
  obtain rfl := Except.ok.inj hdeclared
  have hall : undeclared [] members = members := List.filter_eq_self.2 (by simp)
  rw [hall] at hclose
  exact ⟨members, rfl, (Except.ok.inj hclose).symm⟩

/-- A validator of open objects is stable. -/
lemma stable_openObject : openObject.Stable registry trail value := by
  intro w hw
  obtain ⟨members, rfl, rfl⟩ := parseFrom_openObject_eq_ok hw
  have hall : undeclared [] (Entries.ofList members) = Entries.ofList members :=
    List.filter_eq_self.2 (by simp)
  rw [openObject, parseFrom, parseFields]
  dsimp only
  rw [hall]
  exact congrArg (fun es => Except.ok (Json.object es))
    (Entries.ofList_eq_self (Entries.nodup_keys_ofList members))

/-! ## Choices and references -/

/-- What comes of a list of validators comes of one of them. -/
lemma exists_mem_of_parseFirst {members : List Validator} {w : Json}
    (h : parseFirst registry trail members value = .ok w) :
    ∃ m ∈ members, m.parseFrom registry trail value = .ok w := by
  induction members with
  | nil =>
    rw [parseFirst] at h
    cases h
  | cons m rest ih =>
    rw [parseFirst] at h
    split at h
    · next hm =>
      cases h
      exact ⟨m, List.mem_cons_self, hm⟩
    · cases h
    · obtain ⟨m', hm', hw⟩ := ih h
      exact ⟨m', List.mem_cons_of_mem _ hm', hw⟩

/-- A union is stable, if its members are, and if a member that refuses the value refuses also what
another one makes of it. -/
lemma stable_union {members : List Validator}
    (hstable : ∀ m ∈ members, m.Stable registry trail value)
    (hrefuses : ∀ m ∈ members, ∀ w, m.parseFrom registry trail value = .ok w → ∀ m' ∈ members,
      (∃ i, m'.parseFrom registry trail value = .error (.issue i)) →
        ∃ i, m'.parseFrom registry trail w = .error (.issue i)) :
    (union members).Stable registry trail value := by
  intro w hw
  rw [parseFrom] at hw ⊢
  induction members with
  | nil =>
    rw [parseFirst] at hw
    cases hw
  | cons m rest ih =>
    rw [parseFirst] at hw
    split at hw
    · next hm =>
      cases hw
      rw [parseFirst, hstable m List.mem_cons_self w hm]
    · cases hw
    · next i hi =>
      obtain ⟨m', hm', hw'⟩ := exists_mem_of_parseFirst hw
      obtain ⟨j, hj⟩ :=
        hrefuses m' (List.mem_cons_of_mem _ hm') w hw' m List.mem_cons_self ⟨i, hi⟩
      rw [parseFirst, hj]
      exact ih (fun m hm => hstable m (List.mem_cons_of_mem _ hm))
        (fun m hm w hw m' hm' =>
          hrefuses m (List.mem_cons_of_mem _ hm) w hw m' (List.mem_cons_of_mem _ hm')) hw

/-- A reference is stable, if the validator of its name is. -/
lemma stable_reference {name : String} {deferred : Bool} {target : Validator}
    (htrail : name ∉ trail) (hname : registry.get? name = some target)
    (h : target.Stable registry (name :: trail) value) :
    (reference name deferred).Stable registry trail value := by
  intro w hw
  rw [parseFrom_reference htrail hname] at hw ⊢
  exact h w hw

end Validator

namespace Schema

open Validator (Stable Decides)

variable {registry : Registry} {schemas : Entries Schema} {order : SchemaOrder}
  {current : String} {trail : List String} {value w : Json}

/-! ## Members of unions -/

/-- What a plain part makes of a value: the value itself, an object of an object, or, if the part
has a schema for the items, an array of an array. -/
lemma parsed_cases {m : Schema} (hplain : m.isPlain = true)
    (h : (m.partValidator order current).parseFrom registry trail value = .ok w) :
    w = value ∨ (∃ members members', value = .object members ∧ w = .object members') ∨
      ∃ items values ws, m.items? = some items ∧ value = .array values ∧ w = .array ws := by
  have hopen : ∀ {n : Notes},
      (orNull n Validator.openObject).parseFrom registry trail value = .ok w →
        w = value ∨ ∃ members members', value = .object members ∧ w = .object members' := by
    intro n h
    obtain ⟨rfl, rfl⟩ | h := Validator.parseFrom_orNull_eq_ok h
    · exact Or.inl rfl
    · obtain ⟨members, rfl, rfl⟩ := Validator.parseFrom_openObject_eq_ok h
      exact Or.inr ⟨members, _, rfl, rfl⟩
  cases m with
  | reference n pointer => cases hplain
  | union n members => cases hplain
  | object n properties required additional =>
    rw [partValidator] at h
    exact (hopen h).imp_right Or.inl
  | freeObject n required additional =>
    rw [partValidator] at h
    exact (hopen h).imp_right Or.inl
  | array n items =>
    rw [partValidator] at h
    obtain ⟨rfl, rfl⟩ | h := Validator.parseFrom_orNull_eq_ok h
    · exact Or.inl rfl
    · obtain ⟨values, ws, rfl, -, rfl⟩ := Validator.parseFrom_array_eq_ok h
      exact Or.inr (Or.inr ⟨items, values, ws, rfl, rfl, rfl⟩)
  | freeArray n =>
    rw [partValidator] at h
    obtain ⟨rfl, rfl⟩ | h := Validator.parseFrom_orNull_eq_ok h
    · exact Or.inl rfl
    · obtain ⟨values, ws, rfl, hws, rfl⟩ := Validator.parseFrom_array_eq_ok h
      exact Or.inl (congrArg Json.array (Validator.eq_of_parseItems_any hws))
  | primitive n type =>
    cases type <;>
    · rw [partValidator] at h
      obtain ⟨rfl, rfl⟩ | h := Validator.parseFrom_orNull_eq_ok h
      · exact Or.inl rfl
      · rw [Validator.parseFrom] at h
        exact Or.inl (Validator.eq_of_expectType h)
  | unknown n type =>
    rw [partValidator] at h
    obtain ⟨rfl, rfl⟩ | h := Validator.parseFrom_orNull_eq_ok h
    · exact Or.inl rfl
    · rw [Validator.parseFrom] at h
      exact Or.inl (Except.ok.inj h).symm

/-- A plain part admits all objects if it admits one. -/
lemma partAdmits_object_of_object {m : Schema} (hplain : m.isPlain = true)
    {members : Entries Json} (h : PartAdmits schemas m (.object members))
    (members' : Entries Json) : PartAdmits schemas m (.object members') := by
  cases h with
  | reference _ _ _ => cases hplain
  | unresolved _ _ => cases hplain
  | union _ _ _ => cases hplain
  | object n properties required additional => exact .object n properties required additional _
  | freeObject n required additional => exact .freeObject n required additional _
  | primitive _ h => cases h
  | unknown n type => exact .unknown n type _

/-- A plain part without a schema for items admits all arrays if it admits one. -/
lemma partAdmits_array_of_array {m : Schema} (hplain : m.isPlain = true) (hitems : m.items? = none)
    {values : List Json} (h : PartAdmits schemas m (.array values)) (values' : List Json) :
    PartAdmits schemas m (.array values') := by
  cases h with
  | reference _ _ _ => cases hplain
  | unresolved _ _ => cases hplain
  | union _ _ _ => cases hplain
  | array _ _ => cases hitems
  | freeArray n => exact .freeArray n _
  | primitive _ h => cases h
  | unknown n type => exact .unknown n type _

/-- A plain part that does not admit a value does not admit what another one makes of it, if the two
agree on the items of arrays. -/
lemma not_partAdmits_of_parsed (hserves : registry.Serves schemas order) {m m' : Schema}
    (hplain : m.isPlain = true) (hplain' : m'.isPlain = true)
    (hagree : ∀ items items', m.items? = some items → m'.items? = some items' → items = items')
    (h : (m.partValidator order current).parseFrom registry [] value = .ok w)
    (hnot : ¬PartAdmits schemas m' value) : ¬PartAdmits schemas m' w := by
  intro hw
  apply hnot
  obtain rfl | ⟨members, members', rfl, rfl⟩ | ⟨items, values, ws, hitems, rfl, rfl⟩ :=
    parsed_cases hplain h
  · exact hw
  · exact partAdmits_object_of_object hplain' hw members
  · cases hitems' : m'.items? with
    | none => exact partAdmits_array_of_array hplain' hitems' hw values
    | some items' =>
      -- Both are arrays of the same items, so what the first one accepts the second one admits.
      obtain rfl := hagree items items' hitems hitems'
      have hadmits : PartAdmits schemas m (.array values) :=
        (decides_partValidator hserves _ m current).exists_ok_iff.1 ⟨_, h⟩
      have harray : ∀ {s : Schema}, s.items? = some items → ∃ n, s = .array n items := by
        intro s hs
        cases s with
        | array n items' => exact ⟨n, by rw [Option.some_inj.1 hs]⟩
        | _ => cases hs
      obtain ⟨n, rfl⟩ := harray hitems
      obtain ⟨n', rfl⟩ := harray hitems'
      cases hadmits with
      | array _ hvalues => exact .array n' hvalues

/-! ## All schemas -/

/-- The validator of a uniform named schema is stable at a value, if the validators of uniform parts
are stable at the parts of the value. -/
lemma stable_validator_of_parts {s : Schema} (hs : s.Uniform)
    (hparts : ∀ v ∈ value.parts, ∀ s : Schema, s.Uniform → ∀ current,
      (s.partValidator order current).Stable registry [] v)
    (current : String) (trail : List String) :
    (s.validator order current).Stable registry trail value := by
  cases hs with
  | @object n properties required additional hnodup huniform =>
    rw [validator]
    refine Validator.stable_orNull n (Validator.stable_object ?_ ?_ ?_)
    · split <;> simp
    · have hnames : (properties.map (propertyField order current required)).map Field.name =
          Entries.keys properties := by
        rw [List.map_map]
        rfl
      rwa [hnames]
    · rintro members rfl f hf v hv
      obtain ⟨p, hp, rfl⟩ := List.mem_map.1 hf
      have hpart := hparts v (Json.mem_parts_of_get? hv) p.2 (huniform p hp) current
      rw [propertyField]
      dsimp only
      split
      · exact hpart
      · intro w hw
        rw [Validator.parseFrom] at hw ⊢
        exact hpart w hw
  | array n huniform =>
    rw [validator]
    refine Validator.stable_orNull n (Validator.stable_array ?_)
    rintro values rfl v hv
    exact hparts v hv _ huniform current
  | _ =>
    rw [validator]
    · exact Validator.stable_any
    all_goals simp

/-- The validator of a uniform part is stable at a value, if those of named schemas are, and those
of uniform parts are stable at the parts of the value. -/
lemma stable_partValidator_of_parts (hserves : registry.Serves schemas order)
    (hnamed : ∀ name s, schemas.get? name = some s → ∀ trail,
      (s.validator order name).Stable registry trail value)
    (hparts : ∀ v ∈ value.parts, ∀ s : Schema, s.Uniform → ∀ current,
      (s.partValidator order current).Stable registry [] v)
    {s : Schema} (hs : s.Uniform) (current : String) :
    (s.partValidator order current).Stable registry [] value := by
  induction hs with
  | reference n pointer =>
    rw [partValidator, pointerValidator]
    refine Validator.stable_orNull n ?_
    obtain ⟨htarget, -⟩ | ⟨name, s, htarget, hs, -⟩ := hserves.resolve pointer
    · simp only [htarget]
      exact Validator.stable_any
    · simp only [htarget]
      exact Validator.stable_reference List.not_mem_nil (hserves.get?_eq name s hs)
        (hnamed name s hs _)
  | object n required additional hnodup huniform =>
    rw [partValidator]
    exact Validator.stable_orNull n Validator.stable_openObject
  | freeObject n required additional =>
    rw [partValidator]
    exact Validator.stable_orNull n Validator.stable_openObject
  | array n huniform =>
    rw [partValidator]
    refine Validator.stable_orNull n (Validator.stable_array ?_)
    rintro values rfl v hv
    exact hparts v hv _ huniform current
  | freeArray n =>
    rw [partValidator]
    exact Validator.stable_orNull n (Validator.stable_array fun _ _ _ _ => Validator.stable_any)
  | primitive n type =>
    cases type <;>
    · rw [partValidator]
      refine Validator.stable_orNull n (Validator.stable_of_eq fun w hw => ?_)
      rw [Validator.parseFrom] at hw
      exact Validator.eq_of_expectType hw
  | union n hplain hitems huniform ih =>
    rw [partValidator, memberValidators_eq_map]
    refine Validator.stable_orNull n (Validator.stable_union ?_ ?_)
    · intro v hv
      obtain ⟨m, hm, rfl⟩ := List.mem_map.1 hv
      exact ih m hm
    · intro v hv w hw v' hv' hissue
      obtain ⟨m, hm, rfl⟩ := List.mem_map.1 hv
      obtain ⟨m', hm', rfl⟩ := List.mem_map.1 hv'
      rw [(decides_partValidator hserves _ m' current).exists_issue_iff] at hissue ⊢
      exact not_partAdmits_of_parsed hserves (hplain m hm) (hplain m' hm') (hitems m hm m' hm') hw
        hissue
  | unknown n type =>
    rw [partValidator]
    exact Validator.stable_orNull n Validator.stable_any

variable (hserves : registry.Serves schemas order)
  (hschemas : ∀ name s, schemas.get? name = some s → s.Uniform)
include hserves hschemas

/-- The validator of a uniform part is stable. -/
lemma stable_partValidator (value : Json) {s : Schema} (hs : s.Uniform) (current : String) :
    (s.partValidator order current).Stable registry [] value := by
  induction value using Json.inductionOnParts generalizing s current with
  | step value ih =>
    have hparts : ∀ v ∈ value.parts, ∀ s : Schema, s.Uniform → ∀ current,
        (s.partValidator order current).Stable registry [] v :=
      fun v hv s hs current => ih v hv hs current
    -- A reference hands the same value to a named schema, so the named schemas come first.
    have hnamed : ∀ name s, schemas.get? name = some s → ∀ trail,
        (s.validator order name).Stable registry trail value :=
      fun name s hname trail =>
        stable_validator_of_parts (hschemas name s hname) hparts name trail
    exact stable_partValidator_of_parts hserves hnamed hparts hs current

/-- The validator of a uniform named schema is stable. -/
lemma stable_validator (value : Json) {s : Schema} (hs : s.Uniform) (current : String)
    (trail : List String) : (s.validator order current).Stable registry trail value :=
  stable_validator_of_parts hs (fun v _ _ hs => stable_partValidator hserves hschemas v hs)
    current trail

end Schema

end TypedClient
