import Mathlib.Data.List.Permutation
import TypedClient.Proofs.Json.Unique
import TypedClient.Proofs.Validator.Choice
import TypedClient.Proofs.Validator.Stability

/-!
# What a validator leaves of a value

A validator that accepts a value yields the value without some members of objects, and changes
nothing else (`Validator.Trims`).  A member is left out if and only if the object validator that
the object is left to strips undeclared members and has no field of that name.  So where no object
validator strips, the value comes out as it went in, up to the order of members
(`Validator.trimmed_of_parse`).
-/

namespace TypedClient

/-- Two values are the same up to the order of members. -/
inductive Json.Same : Json → Json → Prop where
  | refl {value : Json} : Same value value
  | array {values others : List Json} (hlength : others.length = values.length)
    (hitems : ∀ (i : Nat) (x y : Json), values[i]? = some x → others[i]? = some y → Same x y) :
    Same (.array values) (.array others)
  | object {members others : Entries Json} (hkeys : ∀ key, key ∈ others.keys ↔ key ∈ members.keys)
    (hmembers : ∀ key x y, members.get? key = some x → others.get? key = some y → Same x y) :
    Same (.object members) (.object others)

namespace Validator

variable {registry : Registry} {trail : List String} {value : Json}

/-! ## Members and their fields -/

/-- The last field of a name. -/
def lastField? : List (Field Validator) → String → Option (Field Validator)
  | [], _ => none
  | f :: rest, key => (lastField? rest key).or (if f.name = key then some f else none)

/-- The validator that says what a member becomes: that of the last field of its name.  What has no
field is kept as it is, or left out. -/
def memberValidator (fields : List (Field Validator)) (key : String) : Validator :=
  ((lastField? fields key).map Field.body).getD .any

/-- A name has a last field if and only if it has a field. -/
lemma lastField?_eq_none_iff {fields : List (Field Validator)} {key : String} :
    lastField? fields key = none ↔ key ∉ fields.map Field.name := by
  induction fields with
  | nil => simp [lastField?]
  | cons f rest ih =>
    rw [lastField?, Option.or_eq_none_iff, ih, List.map_cons, List.mem_cons, not_or]
    by_cases hname : f.name = key
    · simp [hname]
    · simp [hname, Ne.symm hname]

/-- What becomes of the member of a name: if it has a field and is present, the result is what the
last field makes of it; otherwise the fields do not touch it. -/
lemma get?_of_parseFields {fields : List (Field Validator)} {members out result : Entries Json}
    (h : parseFields registry fields members out = .ok result) (key : String) :
    (∃ f x w, lastField? fields key = some f ∧ members.get? key = some x ∧
        f.body.parseFrom registry [] x = .ok w ∧ result.get? key = some w) ∨
      ((lastField? fields key = none ∨ members.get? key = none) ∧
        result.get? key = out.get? key) := by
  induction fields generalizing out with
  | nil =>
    rw [parseFields] at h
    obtain rfl := Except.ok.inj h
    exact Or.inr ⟨Or.inl rfl, rfl⟩
  | cons f rest ih =>
    rw [parseFields] at h
    rw [lastField?]
    split at h
    · next x hx =>
      split at h
      · cases h
      · next w hw =>
        obtain ⟨g, y, z, hg, hy, hz, hresult⟩ | ⟨hnone, hresult⟩ := ih h
        · exact Or.inl ⟨g, y, z, by rw [hg, Option.some_or], hy, hz, hresult⟩
        · rw [Entries.get?_put] at hresult
          by_cases hname : f.name = key
          · subst hname
            rw [if_pos rfl] at hresult
            have hlast : lastField? rest f.name = none :=
              hnone.resolve_right fun habsent => by cases habsent.symm.trans hx
            exact Or.inl ⟨f, x, w, by rw [hlast, if_pos rfl, Option.none_or], hx, hw, hresult⟩
          · rw [if_neg hname] at hresult
            rw [if_neg hname, Option.or_none]
            exact Or.inr ⟨hnone, hresult⟩
    · next habsent =>
      split at h
      · obtain ⟨g, y, z, hg, hy, hz, hresult⟩ | ⟨hnone, hresult⟩ := ih h
        · exact Or.inl ⟨g, y, z, by rw [hg, Option.some_or], hy, hz, hresult⟩
        · refine Or.inr ⟨?_, hresult⟩
          by_cases hname : f.name = key
          · exact Or.inr (hname ▸ habsent)
          · rwa [if_neg hname, Option.or_none]
      · cases h
      · cases h

/-- The fields never repeat a name. -/
lemma nodup_keys_of_parseFields {fields : List (Field Validator)}
    {members out result : Entries Json}
    (h : parseFields registry fields members out = .ok result) (hout : out.keys.Nodup) :
    result.keys.Nodup := by
  induction fields generalizing out with
  | nil =>
    rw [parseFields] at h
    exact Except.ok.inj h ▸ hout
  | cons f rest ih =>
    rw [parseFields] at h
    split at h
    · split at h
      · cases h
      · exact ih h (Entries.nodup_keys_put hout _ _)
    · split at h
      · exact ih h hout
      · cases h
      · cases h

/-! ## Undeclared members -/

/-- Among the undeclared members there is found under a name what is in the object, unless the name
has a field. -/
lemma get?_undeclared (fields : List (Field Validator)) (members : Entries Json) (key : String) :
    Entries.get? (undeclared fields members) key =
      if lastField? fields key = none then members.get? key else none := by
  have hany : (!fields.any fun field => field.name == key) = true ↔
      lastField? fields key = none := by
    simp [lastField?_eq_none_iff]
  rw [undeclared,
    Entries.get?_filter (fun name => !fields.any fun field => field.name == name)]
  by_cases hnone : lastField? fields key = none
  · rw [if_pos hnone, if_pos (hany.2 hnone)]
  · rw [if_neg hnone, if_neg fun h => hnone (hany.1 h)]

/-- An object comes of the declared members and, where they are passed through, of the undeclared
ones; in the strict mode there are none. -/
lemma exists_object_of_closeObject {mode : Mode} {extra declared : Entries Json} {w : Json}
    (hextra : extra.keys.Nodup) (h : closeObject mode extra declared = .ok w) :
    ∃ out : Entries Json, w = .object out ∧ (declared.keys.Nodup → out.keys.Nodup) ∧
      (mode = .strict → extra = []) ∧
      ∀ key, out.get? key =
        if mode = .passthrough then (extra.get? key).or (declared.get? key)
        else declared.get? key := by
  cases mode with
  | strip =>
    obtain rfl := Except.ok.inj h
    exact ⟨declared, rfl, id, by simp, fun _ => rfl⟩
  | strict =>
    rw [closeObject] at h
    split at h
    · next hnil =>
      obtain rfl := Except.ok.inj h
      exact ⟨declared, rfl, id, fun _ => List.isEmpty_iff.1 hnil, fun _ => rfl⟩
    · cases h
  | passthrough =>
    obtain rfl := Except.ok.inj h
    exact ⟨_, rfl, Entries.nodup_keys_foldl_put extra, by simp,
      Entries.get?_foldl_put hextra declared⟩

/-- What becomes of what an object has under a name: the last field of the name makes something of
it; without a field it is passed through or stripped; and nothing comes of nothing. -/
inductive Fate (registry : Registry) (fields : List (Field Validator)) (mode : Mode)
    (key : String) : Option Json → Option Json → Prop where
  | declared {f : Field Validator} {x y : Json} (hfield : lastField? fields key = some f)
    (hy : f.body.parseFrom registry [] x = .ok y) : Fate registry fields mode key (some x) (some y)
  | passed {x : Json} (hfield : lastField? fields key = none) (hmode : mode = .passthrough) :
    Fate registry fields mode key (some x) (some x)
  | stripped {x : Json} (hfield : lastField? fields key = none) (hmode : mode = .strip) :
    Fate registry fields mode key (some x) none
  | absent : Fate registry fields mode key none none

/-- Only of something comes something. -/
lemma Fate.exists_of_some {fields : List (Field Validator)} {mode : Mode} {key : String}
    {found : Option Json} {w : Json} (h : Fate registry fields mode key found (some w)) :
    ∃ x, found = some x := by
  cases h with
  | declared _ _ => exact ⟨_, rfl⟩
  | passed _ _ => exact ⟨_, rfl⟩

/-- Of something comes nothing if and only if it is stripped. -/
lemma Fate.eq_none_iff {fields : List (Field Validator)} {mode : Mode} {key : String} {x : Json}
    {left : Option Json} (h : Fate registry fields mode key (some x) left) :
    left = none ↔ mode = .strip ∧ lastField? fields key = none := by
  cases h with
  | declared hfield _ => simp [hfield]
  | passed _ hmode => simp [hmode]
  | stripped hfield hmode => simp [hfield, hmode]

/-- An object validator yields an object, and what becomes of each name. -/
lemma exists_fate_of_parseFrom_object {fields : List (Field Validator)} {mode : Mode}
    {members : Entries Json} {w : Json} (hmembers : members.keys.Nodup)
    (h : (object fields mode).parseFrom registry trail (.object members) = .ok w) :
    ∃ out : Entries Json, w = .object out ∧ out.keys.Nodup ∧
      ∀ key, Fate registry fields mode key (members.get? key) (out.get? key) := by
  obtain ⟨_, declared, hobject, hdeclared, hclose⟩ := parseFrom_object_eq_ok h
  cases hobject
  have hextra : (Entries.keys (undeclared fields members)).Nodup :=
    hmembers.sublist (List.filter_sublist.map Prod.fst)
  obtain ⟨out, rfl, hnodup, hstrict, hout⟩ := exists_object_of_closeObject hextra hclose
  refine ⟨out, rfl, hnodup (nodup_keys_of_parseFields hdeclared List.nodup_nil), fun key => ?_⟩
  have hundeclared := get?_undeclared fields members key
  rw [hout key]
  obtain ⟨f, x, y, hf, hx, hy, hget⟩ | ⟨hnone, hget⟩ := get?_of_parseFields hdeclared key
  · have hnone : (undeclared fields members).get? key = none := by
      rw [hundeclared, if_neg (hf ▸ Option.some_ne_none f)]
    rw [hnone, Option.none_or, ite_self, hget, hx]
    exact .declared hf hy
  · rw [hget, Entries.get?_nil, Option.or_none, hundeclared]
    cases hmember : members.get? key with
    | none =>
      rw [ite_self, ite_self]
      exact .absent
    | some x =>
      have hfield : lastField? fields key = none :=
        hnone.resolve_right fun habsent => by cases habsent.symm.trans hmember
      rw [if_pos hfield]
      rw [hmember, if_pos hfield] at hundeclared
      cases mode with
      | strip => exact .stripped hfield rfl
      | passthrough => exact .passed hfield rfl
      | strict =>
        rw [hstrict rfl] at hundeclared
        cases hundeclared

/-! ## What is left of a value -/

/-- The validator does not look into the value: it yields the value itself, if anything. -/
def TakesWhole (value : Json) : Validator → Prop
  | .any | .string | .number | .boolean => True
  | .nullable _ => value = .null
  | _ => False

/-- What a validator leaves of a value: the value without some members.  A member is missing if and
only if the object is left to a validator that strips it. -/
inductive Trims (registry : Registry) : Validator → Json → Json → Prop where
  | whole {v u : Validator} {value : Json} (hv : Chooses registry value v u)
    (hu : TakesWhole value u) : Trims registry v value value
  | array {v items : Validator} {values ws : List Json}
    (hv : Chooses registry (.array values) v (.array items)) (hlength : ws.length = values.length)
    (hitems : ∀ (i : Nat) (x w : Json), values[i]? = some x → ws[i]? = some w →
      Trims registry items x w) :
    Trims registry v (.array values) (.array ws)
  | object {v : Validator} {fields : List (Field Validator)} {mode : Mode}
    {members out : Entries Json}
    (hv : Chooses registry (.object members) v (.object fields mode)) (hunique : out.keys.Nodup)
    (hsubset : out.keys ⊆ members.keys)
    (hmembers : ∀ key x w, members.get? key = some x → out.get? key = some w →
      Trims registry (memberValidator fields key) x w)
    (hmissing : ∀ key ∈ members.keys,
      key ∉ out.keys ↔ mode = .strip ∧ key ∉ fields.map Field.name) :
    Trims registry v (.object members) (.object out)

/-- What is left by the validator to which a value is left is left by the one that leaves it. -/
lemma Trims.of_chooses {v v' : Validator} {w : Json} (h : Trims registry v value w)
    (hchooses : ∀ u, Chooses registry value v u → Chooses registry value v' u) :
    Trims registry v' value w := by
  cases h with
  | whole hv hu => exact .whole (hchooses _ hv) hu
  | array hv hlength hitems => exact .array (hchooses _ hv) hlength hitems
  | object hv hunique hsubset hmembers hmissing =>
    exact .object (hchooses _ hv) hunique hsubset hmembers hmissing

/-- Items are parsed one by one. -/
lemma forall_item_of_parseItems {items : Validator} {values ws : List Json} {index : Nat}
    (h : parseItems registry items index values = .ok ws) :
    ws.length = values.length ∧ ∀ (i : Nat) (x w : Json), values[i]? = some x → ws[i]? = some w →
      items.parseFrom registry [] x = .ok w := by
  induction values generalizing index ws with
  | nil =>
    rw [parseItems] at h
    obtain rfl := Except.ok.inj h
    exact ⟨rfl, by simp⟩
  | cons v rest ih =>
    rw [parseItems] at h
    split at h
    · cases h
    · next parsed hparsed =>
      obtain ⟨more, hmore, rfl⟩ := Except.map_eq_ok_iff.1 h
      obtain ⟨hlength, hrest⟩ := ih hmore
      refine ⟨by rw [List.length_cons, List.length_cons, hlength], fun i x w hx hw => ?_⟩
      cases i with
      | zero =>
        obtain rfl := Option.some_inj.1 hx
        obtain rfl := Option.some_inj.1 hw
        exact hparsed
      | succ i => exact hrest i x w hx hw

/-- What an object validator leaves of an object, if the validators of its fields trim its
members. -/
lemma trims_of_fate {fields : List (Field Validator)} {mode : Mode} {members out : Entries Json}
    (hparts : ∀ v ∈ (Json.object members).parts, ∀ (u : Validator) (w : Json),
      u.parseFrom registry [] v = .ok w → Trims registry u v w)
    (hunique : out.keys.Nodup)
    (hfate : ∀ key, Fate registry fields mode key (members.get? key) (out.get? key)) :
    Trims registry (.object fields mode) (.object members) (.object out) := by
  refine .object .self hunique (fun key hkey => ?_) (fun key x w hx hw => ?_) fun key hkey => ?_
  · obtain ⟨w, hw⟩ := Entries.exists_get?_iff.2 hkey
    exact Entries.exists_get?_iff.1 (hw ▸ hfate key).exists_of_some
  · have hkey := hfate key
    rw [hx, hw] at hkey
    unfold memberValidator
    cases hkey with
    | declared hfield hy =>
      rw [hfield]
      exact hparts x (Json.mem_parts_of_get? hx) _ w hy
    | passed hfield _ =>
      rw [hfield]
      exact .whole .self trivial
  · obtain ⟨x, hx⟩ := Entries.exists_get?_iff.2 hkey
    rw [← Entries.get?_eq_none_iff, ← lastField?_eq_none_iff]
    exact (hx ▸ hfate key).eq_none_iff

/-- What comes of a value is what the validator leaves of it.  The induction is on the value, then
on the names that are not on the trail, and then on the validator, as the validator is applied. -/
lemma trims_of_parseFrom {v : Validator} {w : Json} (hunique : value.KeysUnique)
    (h : v.parseFrom registry trail value = .ok w) : Trims registry v value w := by
  induction value using Json.inductionOnParts generalizing trail v w with
  | step value ihparts =>
  obtain ⟨hkeys, hparts⟩ := hunique
  induction hlength : (Registry.offTrail registry trail).length using Nat.strongRecOn
    generalizing trail v w with
  | ind length ih =>
  subst hlength
  induction v using Validator.inductionOn generalizing w with
  | any =>
    rw [parseFrom] at h
    obtain rfl := Except.ok.inj h
    exact .whole .self trivial
  | string =>
    rw [parseFrom] at h
    obtain rfl := eq_of_expectType h
    exact .whole .self trivial
  | number =>
    rw [parseFrom] at h
    obtain rfl := eq_of_expectType h
    exact .whole .self trivial
  | boolean =>
    rw [parseFrom] at h
    obtain rfl := eq_of_expectType h
    exact .whole .self trivial
  | object fields mode _ =>
    obtain ⟨members, -, rfl, -⟩ := parseFrom_object_eq_ok h
    obtain ⟨out, rfl, hout, hfate⟩ := exists_fate_of_parseFrom_object (hkeys members rfl) h
    exact trims_of_fate (fun x hx _ _ hw => ihparts x hx (hparts x hx) hw) hout hfate
  | array items _ =>
    obtain ⟨values, ws, rfl, hws, rfl⟩ := parseFrom_array_eq_ok h
    obtain ⟨hsame, hitems⟩ := forall_item_of_parseItems hws
    refine .array .self hsame fun i x w hx hw => ?_
    have hmem : x ∈ values := List.mem_of_getElem? hx
    exact ihparts x hmem (hparts x hmem) (hitems i x w hx hw)
  | union members ihmembers =>
    rw [parseFrom] at h
    obtain ⟨before, m, after, rfl, hrefused, hm⟩ := exists_first_of_parseFirst h
    exact (ihmembers m (by simp) hm).of_chooses fun _ hu =>
      .member hrefused ⟨w, parse_eq_ok hm⟩ hu
  | nullable inner ihinner =>
    by_cases hnull : value = .null
    · subst hnull
      rw [parseFrom] at h
      obtain rfl := Except.ok.inj h
      exact .whole .self rfl
    · rw [parseFrom] at h
      · exact (ihinner h).of_chooses fun _ hu => .nullable hnull hu
      · exact hnull
  | optional inner ihinner =>
    rw [parseFrom] at h
    exact (ihinner h).of_chooses fun _ hu => .optional hu
  | reference name deferred =>
    by_cases htrail : name ∈ trail
    · rw [parseFrom, dif_pos htrail] at h
      cases h
    · rw [parseFrom_reference_eq htrail] at h
      cases htarget : registry.get? name with
      | none =>
        rw [htarget] at h
        cases h
      | some target =>
        rw [htarget] at h
        have hless := Registry.length_offTrail_cons_lt registry
          (Entries.mem_keys_of_get? htarget) htrail
        exact (ih _ hless h rfl).of_chooses fun _ hu => .target htarget hu

/-! ## Where nothing is stripped -/

/-- A validator is reached from another one: it is the other one, or is reached from a part of it or
from what a reference in it refers to. -/
inductive Reaches (registry : Registry) : Validator → Validator → Prop where
  | here {v : Validator} : Reaches registry v v
  | field {fields : List (Field Validator)} {mode : Mode} {f : Field Validator} {u : Validator}
    (hf : f ∈ fields) (h : Reaches registry f.body u) : Reaches registry (.object fields mode) u
  | item {items u : Validator} (h : Reaches registry items u) : Reaches registry (.array items) u
  | member {members : List Validator} {m u : Validator} (hm : m ∈ members)
    (h : Reaches registry m u) : Reaches registry (.union members) u
  | nullable {inner u : Validator} (h : Reaches registry inner u) :
    Reaches registry (.nullable inner) u
  | optional {inner u : Validator} (h : Reaches registry inner u) :
    Reaches registry (.optional inner) u
  | target {name : String} {deferred : Bool} {target u : Validator}
    (hname : Entries.get? registry name = some target) (h : Reaches registry target u) :
    Reaches registry (.reference name deferred) u

/-- No object validator that is reached strips. -/
def StripsNothing (registry : Registry) (v : Validator) : Prop :=
  ∀ fields, ¬Reaches registry v (.object fields .strip)

/-- What is reached from the validator to which a value is left is reached. -/
lemma Chooses.reaches {v u u' : Validator} (h : Chooses registry value v u)
    (hreaches : Reaches registry u u') : Reaches registry v u' := by
  induction h with
  | self => exact hreaches
  | nullable _ _ ih => exact .nullable (ih hreaches)
  | optional _ ih => exact .optional (ih hreaches)
  | member _ _ _ ih => exact .member (by simp) (ih hreaches)
  | target hname _ ih => exact .target hname (ih hreaches)

/-- The last field of a name is one of the fields. -/
lemma mem_of_lastField? {fields : List (Field Validator)} {key : String} {f : Field Validator}
    (h : lastField? fields key = some f) : f ∈ fields := by
  induction fields with
  | nil => cases h
  | cons g rest ih =>
    rw [lastField?, Option.or_eq_some_iff] at h
    obtain h | ⟨-, h⟩ := h
    · exact List.mem_cons_of_mem _ (ih h)
    · split at h
      · exact Option.some_inj.1 h ▸ List.mem_cons_self
      · cases h

/-- Where a validator strips nothing, those of the members do not either. -/
lemma StripsNothing.memberValidator {fields : List (Field Validator)} {mode : Mode}
    (h : StripsNothing registry (.object fields mode)) (key : String) :
    StripsNothing registry (memberValidator fields key) := by
  intro stripped hreaches
  unfold Validator.memberValidator at hreaches
  cases hfield : lastField? fields key with
  | none =>
    rw [hfield] at hreaches
    cases hreaches
  | some f =>
    rw [hfield] at hreaches
    exact h stripped (.field (mem_of_lastField? hfield) hreaches)

/-- Where nothing is stripped, the value is left as it is. -/
lemma Trims.same {v : Validator} {w : Json} (h : Trims registry v value w)
    (hstrips : StripsNothing registry v) : value.Same w := by
  induction h with
  | whole _ _ => exact .refl
  | array hv hlength _ ih =>
    refine .array hlength fun i x w hx hw => ih i x w hx hw fun fields hreaches => ?_
    exact hstrips fields (hv.reaches (.item hreaches))
  | @object v fields mode members out hv _ hsubset _ hmissing ih =>
    have hobject : StripsNothing registry (.object fields mode) := fun stripped hreaches =>
      hstrips stripped (hv.reaches hreaches)
    refine .object (fun key => ⟨fun hkey => hsubset hkey, fun hkey => ?_⟩) fun key x w hx hw =>
      ih key x w hx hw (hobject.memberValidator key)
    by_contra hout
    obtain ⟨rfl, -⟩ := (hmissing key hkey).1 hout
    exact hobject fields .here

/-- No name is repeated in what is left of a value. -/
lemma Trims.keysUnique {v : Validator} {w : Json} (h : Trims registry v value w)
    (hunique : value.KeysUnique) : w.KeysUnique := by
  induction h with
  | whole _ _ => exact hunique
  | @array v items values ws _ hlength _ ih =>
    have hparts := Json.keysUnique_array_iff.1 hunique
    refine Json.keysUnique_array_iff.2 fun w hw => ?_
    obtain ⟨i, hi, rfl⟩ := List.getElem_of_mem hw
    have hx := List.getElem?_eq_getElem (hlength ▸ hi)
    exact ih i _ _ hx (List.getElem?_eq_getElem hi) (hparts _ (List.mem_of_getElem? hx))
  | @object v fields mode members out _ hout hsubset _ _ ih =>
    obtain ⟨-, hparts⟩ := hunique
    refine .intro (fun _ hobject => ?_) fun w hw => ?_
    · cases hobject
      exact hout
    · obtain ⟨⟨key, _⟩, hmem, rfl⟩ := List.mem_map.1 hw
      obtain ⟨x, hx⟩ := Entries.exists_get?_iff.2 (hsubset (List.mem_map_of_mem hmem))
      exact ih key x _ hx (Entries.get?_of_mem hout hmem)
        (hparts x (Json.mem_parts_of_get? hx))

/-- What a validator makes of a value that it accepts. -/
structure Trimmed (registry : Registry) (v : Validator) (value w : Json) : Prop where
  /-- Some members are left out, and nothing else is changed. -/
  trims : Trims registry v value w
  /-- No name is repeated. -/
  keysUnique : w.KeysUnique
  /-- Where nothing is stripped, it is the value itself, up to the order of members. -/
  same : StripsNothing registry v → value.Same w

/-- A validator that accepts a value yields the value without the members that are stripped. -/
theorem trimmed_of_parse {v : Validator} {w : Json} (hunique : value.KeysUnique)
    (h : v.parse registry value = .ok w) : Trimmed registry v value w := by
  have htrims := trims_of_parseFrom hunique h
  constructor
  case trims => exact htrims
  case keysUnique => exact htrims.keysUnique hunique
  case same => exact htrims.same

/-- Objects with tags, of which anything else is kept, and objects of which nothing else is. -/
def boxRegistry : Registry :=
  [("Tagged", .object [⟨"tags", .array .string, none⟩] .passthrough),
    ("Bare", .object [⟨"tags", .nullable .any, none⟩] .strip)]

/-- A box with tags of which anything else is kept, or else one of which nothing else is; a further
field of the same name decides in the end. -/
def boxValidator : Validator :=
  .object
    [⟨"box", .any, none⟩,
      ⟨"box", .union [.reference "Tagged" false, .optional (.reference "Bare" true)], none⟩]
    .passthrough

/-- A text with a repeated key and a box whose tags are no texts. -/
def boxText : String :=
  "\x7b\"id\": 1, \"box\": \x7b\"size\": 2, \"tags\": [3]\x7d, \"id\": 4\x7d"

/-- The value of the text. -/
def boxValue : Json :=
  .object
    [("id", .number (.int 4)),
      ("box", .object [("size", .number (.int 2)), ("tags", .array [.number (.int 3)])])]

/-- The value without the member that is stripped; the declared member comes first. -/
def trimmedBox : Json :=
  .object
    [("box", .object [("tags", .array [.number (.int 3)])]), ("id", .number (.int 4))]

/-- The first member of the union that accepts the box strips it, and the object around keeps what
is undeclared. -/
theorem boxValue_trimmed :
    boxValue.KeysUnique ∧ boxValidator.parse boxRegistry boxValue = .ok trimmedBox ∧
      Trimmed boxRegistry boxValidator boxValue trimmedBox := by
  have hread : Json.parse? boxText = some boxValue := by rfl
  have hunique : boxValue.KeysUnique := Json.keysUnique_of_parse? hread
  have hparse : boxValidator.parse boxRegistry boxValue = .ok trimmedBox := by cbv
  exact ⟨hunique, hparse, trimmed_of_parse hunique hparse⟩

end Validator

end TypedClient
