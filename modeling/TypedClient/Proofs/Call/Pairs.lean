import TypedClient.Call.Query
import TypedClient.Proofs.Url.Form

/-!
# Query strings are read back

Which pairs of a key and a text the members of an object stand for is said by a relation that knows
nothing of forms (`Query.Lists`): a member gives one pair, an array one pair for each of its items,
and `null` gives none in either place.  A query string, read as a form, yields just these pairs in
this order, whatever the keys and the texts are, and it is empty only if there are none
(`Query.lists_iff_read_render`).
-/

namespace TypedClient.Query

/-! ## The pairs of an object -/

/-- The text that stands for a value: a text stands for itself, and any other value but `null` has
its compact JSON text. -/
inductive Spells : Json → String → Prop where
  | string (s : String) : Spells (.string s) s
  | compact {v : Json} (hnull : v ≠ .null) (hstring : ∀ s, v ≠ .string s) : Spells v v.compact

/-- The pairs that named values stand for, in order. -/
inductive Lists : Entries Json → List (String × String) → Prop where
  /-- There are no values. -/
  | nil : Lists [] []
  /-- The first value is `null`, and gives no pair. -/
  | null (key : String) {rest : Entries Json} {listed : List (String × String)}
    (h : Lists rest listed) : Lists ((key, .null) :: rest) listed
  /-- The first value is no array, and gives one pair. -/
  | single (key : String) {v : Json} {text : String} {rest : Entries Json}
    {listed : List (String × String)} (harray : ∀ items, v ≠ .array items) (htext : Spells v text)
    (h : Lists rest listed) : Lists ((key, v) :: rest) ((key, text) :: listed)
  /-- The first value is an array without items. -/
  | noItem (key : String) {rest : Entries Json} {listed : List (String × String)}
    (h : Lists rest listed) : Lists ((key, .array []) :: rest) listed
  /-- The first value is an array whose first item is `null`, and this item gives no pair. -/
  | nullItem (key : String) {items : List Json} {rest : Entries Json}
    {listed : List (String × String)} (h : Lists ((key, .array items) :: rest) listed) :
    Lists ((key, .array (.null :: items)) :: rest) listed
  /-- The first value is an array whose first item gives a pair. -/
  | item (key : String) {v : Json} {text : String} {items : List Json} {rest : Entries Json}
    {listed : List (String × String)} (htext : Spells v text)
    (h : Lists ((key, .array items) :: rest) listed) :
    Lists ((key, .array (v :: items)) :: rest) ((key, text) :: listed)

/-! ## What is written -/

variable {v : Json} {text : String} {members : Entries Json} {listed : List (String × String)}

/-- The text of a value in a query is the one that stands for it. -/
lemma valueText?_eq_some_iff : valueText? v = some text ↔ Spells v text := by
  constructor
  · intro h
    cases v with
    | null => cases h
    | string s => exact Option.some_inj.1 h ▸ .string s
    | _ => exact Option.some_inj.1 h ▸ .compact (by simp) (by simp)
  · intro h
    cases h with
    | string s => rfl
    | compact hnull hstring =>
      cases v with
      | null => exact absurd rfl hnull
      | string s => exact absurd rfl (hstring s)
      | _ => rfl

/-- The pair of a value that is no array. -/
lemma pairsOf_of_ne_array (key : String) (harray : ∀ items, v ≠ .array items) :
    pairsOf (key, v) = ((valueText? v).map fun text => (key, text)).toList := by
  have hitems : itemsOf v = [v] := by
    unfold itemsOf
    split
    · next items => exact absurd rfl (harray items)
    · rfl
  rw [pairsOf, hitems, List.filterMap_cons, List.filterMap_nil]
  cases valueText? v <;> rfl

/-- The pair of the first item of an array comes before those of the others. -/
lemma pairsOf_array_cons (key : String) (v : Json) (items : List Json) :
    pairsOf (key, .array (v :: items)) =
      ((valueText? v).map fun text => (key, text)).toList ++ pairsOf (key, .array items) := by
  rw [pairsOf, itemsOf, List.filterMap_cons, pairsOf, itemsOf]
  cases valueText? v <;> rfl

/-- The pairs of the first member come before those of the others. -/
lemma pairs_cons (member : String × Json) (rest : Entries Json) :
    pairs (.object (member :: rest)) = pairsOf member ++ pairs (.object rest) :=
  List.flatMap_cons

/-- The pairs that are written are those that the members stand for. -/
lemma lists_pairs (members : Entries Json) : Lists members (pairs (.object members)) := by
  induction members with
  | nil => exact .nil
  | cons member rest ih =>
    obtain ⟨key, v⟩ := member
    rw [pairs_cons]
    by_cases harray : ∃ items, v = .array items
    · obtain ⟨items, rfl⟩ := harray
      induction items with
      | nil => exact .noItem key ih
      | cons first items ihitems =>
        rw [pairsOf_array_cons, List.append_assoc]
        cases htext : valueText? first with
        | none =>
          cases first with
          | null => exact .nullItem key ihitems
          | _ => cases htext
        | some text => exact .item key (valueText?_eq_some_iff.1 htext) ihitems
    · rw [not_exists] at harray
      rw [pairsOf_of_ne_array key harray]
      cases htext : valueText? v with
      | none =>
        cases v with
        | null => exact .null key ih
        | _ => cases htext
      | some text => exact .single key harray (valueText?_eq_some_iff.1 htext) ih

/-- Members stand for one list of pairs only, the one that is written. -/
lemma Lists.eq_pairs (h : Lists members listed) : pairs (.object members) = listed := by
  induction h with
  | nil => rfl
  | null key _ ih =>
    rw [pairs_cons, ih]
    rfl
  | single key harray htext _ ih =>
    rw [pairs_cons, ih, pairsOf_of_ne_array key harray, valueText?_eq_some_iff.2 htext]
    rfl
  | noItem key _ ih =>
    rw [pairs_cons, ih]
    rfl
  | nullItem key _ ih =>
    rw [pairs_cons, pairsOf_array_cons, List.append_assoc, ← pairs_cons, ih]
    rfl
  | item key htext _ ih =>
    rw [pairs_cons, pairsOf_array_cons, valueText?_eq_some_iff.2 htext, List.append_assoc,
      ← pairs_cons, ih]
    rfl

/-! ## What is read -/

/-- Of all lists of pairs, the query string of an object, read as a form, yields the one that its
members stand for.  The query string is empty if and only if this list is empty. -/
theorem lists_iff_read_render (members : Entries Json) :
    (∀ listed, Lists members listed ↔ Url.Form.read (render (.object members)) = listed) ∧
      (render (.object members) = "" ↔ Lists members []) := by
  have hread : Url.Form.read (render (.object members)) = pairs (.object members) :=
    Url.Form.read_render _
  have hlists : ∀ listed, Lists members listed ↔
      Url.Form.read (render (.object members)) = listed := by
    intro listed
    rw [hread]
    exact ⟨Lists.eq_pairs, fun h => h ▸ lists_pairs members⟩
  refine ⟨hlists, ?_⟩
  rw [hlists]
  constructor
  · intro hempty
    -- The empty text is the form of no pairs.
    rw [hempty]
    rfl
  · intro hnone
    rw [hread] at hnone
    rw [render, hnone]
    rfl

/-- Separators and signs with a meaning in a key or a text come back as they were. -/
example :
    render (.object [("a&b", .array [.string "=", .null, .string "+ %41"]), ("c", .null)]) =
      "a%26b=%3D&a%26b=%2B+%2541" := by
  decide

end TypedClient.Query
