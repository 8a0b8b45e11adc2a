import Mathlib.Data.List.Induction
import Mathlib.Data.List.Perm.Subperm
import Mathlib.Data.Nat.Find
import TypedClient.Proofs.Entries

/-!
# Named values merged by position

Some of the things in a list yield a named value, and these values are put one after the other.  Of
the entries that come of it each can be told from positions in the list: a name stands where its
first value was put (`Entries.pairwise_keys_ofList`), and it has the value that was put last
(`Entries.get?_ofList_eq_some_iff`).
-/

namespace TypedClient.Entries

variable {α β : Type}

/-- The thing at a position in a list yields a value for a name. -/
def YieldsAt (f : α → Option (String × β)) (xs : List α) (i : Nat) (key : String) (v : β) : Prop :=
  ∃ x, xs[i]? = some x ∧ f x = some (key, v)

/-- The first of the positions at which there is a value for a name. -/
def IsFirst (At : Nat → String → β → Prop) (key : String) (i : Nat) : Prop :=
  (∃ v, At i key v) ∧ ∀ j v, At j key v → i ≤ j

/-- The value at the last of the positions at which there is a value for a name. -/
def IsLast (At : Nat → String → β → Prop) (key : String) (v : β) : Prop :=
  ∃ i, At i key v ∧ ∀ j w, At j key w → j ≤ i

variable {f : α → Option (String × β)} {xs : List α} {x : α} {key : String} {v w : β} {i : Nat}

/-! ## Positions -/

/-- What is yielded at a position is yielded by a thing in the list. -/
lemma YieldsAt.lt (h : YieldsAt f xs i key v) : i < xs.length := by
  obtain ⟨x, hx, -⟩ := h
  exact (List.getElem?_eq_some_iff.1 hx).1

/-- One more thing adds one more position. -/
lemma yieldsAt_concat_iff :
    YieldsAt f (xs ++ [x]) i key v ↔
      YieldsAt f xs i key v ∨ i = xs.length ∧ f x = some (key, v) := by
  constructor
  · rintro ⟨y, hy, hf⟩
    rcases Nat.lt_trichotomy i xs.length with hlt | rfl | hgt
    · rw [List.getElem?_append_left hlt] at hy
      exact Or.inl ⟨y, hy, hf⟩
    · rw [List.getElem?_concat_length, Option.some_inj] at hy
      exact Or.inr ⟨rfl, hy ▸ hf⟩
    · rw [List.getElem?_eq_none (by rw [List.length_append]; exact hgt)] at hy
      cases hy
  · rintro (h | ⟨rfl, hf⟩)
    · obtain ⟨y, hy, hf⟩ := id h
      exact ⟨y, by rw [List.getElem?_append_left h.lt, hy], hf⟩
    · exact ⟨x, List.getElem?_concat_length, hf⟩

/-- Where there is a value for a name, there is a first one. -/
lemma exists_isFirst {At : Nat → String → β → Prop} (h : At i key v) : ∃ j, IsFirst At key j := by
  classical
  have hex : ∃ i v, At i key v := ⟨i, v, h⟩
  exact ⟨Nat.find hex, Nat.find_spec hex, fun j w hw => Nat.find_min' hex ⟨w, hw⟩⟩

/-- One more thing leaves the first position of a name where it is. -/
lemma IsFirst.concat (h : IsFirst (YieldsAt f xs) key i) (x : α) :
    IsFirst (YieldsAt f (xs ++ [x])) key i := by
  obtain ⟨⟨v, hv⟩, hfirst⟩ := h
  refine ⟨⟨v, yieldsAt_concat_iff.2 (Or.inl hv)⟩, fun j w hw => ?_⟩
  rcases yieldsAt_concat_iff.1 hw with hw | ⟨rfl, -⟩
  · exact hfirst j w hw
  · exact Nat.le_of_lt hv.lt

/-- One more thing that yields a value for a new name does so at the end. -/
lemma isFirst_length (hnew : ∀ i v, ¬YieldsAt f xs i key v) (hx : f x = some (key, v)) :
    IsFirst (YieldsAt f (xs ++ [x])) key xs.length := by
  refine ⟨⟨v, yieldsAt_concat_iff.2 (Or.inr ⟨rfl, hx⟩)⟩, fun j w hw => ?_⟩
  rcases yieldsAt_concat_iff.1 hw with hw | ⟨rfl, -⟩
  · exact absurd hw (hnew j w)
  · exact Nat.le_refl _

/-- One more thing yields the last value for a name, or it yields none for this name. -/
lemma isLast_concat_iff :
    IsLast (YieldsAt f (xs ++ [x])) key v ↔
      f x = some (key, v) ∨ (∀ w, f x ≠ some (key, w)) ∧ IsLast (YieldsAt f xs) key v := by
  constructor
  · rintro ⟨i, hi, hlast⟩
    rcases yieldsAt_concat_iff.1 hi with hold | ⟨-, hx⟩
    · refine Or.inr ⟨fun w hw => ?_, i, hold, fun j w hw => ?_⟩
      · have hle := hlast xs.length w (yieldsAt_concat_iff.2 (Or.inr ⟨rfl, hw⟩))
        exact absurd hold.lt (Nat.not_lt.2 hle)
      · exact hlast j w (yieldsAt_concat_iff.2 (Or.inl hw))
    · exact Or.inl hx
  · rintro (hx | ⟨hx, i, hi, hlast⟩)
    · refine ⟨xs.length, yieldsAt_concat_iff.2 (Or.inr ⟨rfl, hx⟩), fun j w hw => ?_⟩
      have hlt := hw.lt
      rw [List.length_append, List.length_singleton] at hlt
      exact Nat.le_of_lt_succ hlt
    · refine ⟨i, yieldsAt_concat_iff.2 (Or.inl hi), fun j w hw => ?_⟩
      rcases yieldsAt_concat_iff.1 hw with hw | ⟨-, hw⟩
      · exact hlast j w hw
      · exact absurd hw (hx w)

/-! ## Entries -/

/-- One more pair is put behind the others. -/
lemma ofList_concat (pairs : List (String × β)) (pair : String × β) :
    ofList (pairs ++ [pair]) = (ofList pairs).put pair.1 pair.2 := by
  rw [ofList, List.foldl_concat, ← ofList]

/-- The value under a name is the one that was put last. -/
lemma get?_ofList_eq_some_iff :
    (ofList (xs.filterMap f)).get? key = some v ↔ IsLast (YieldsAt f xs) key v := by
  induction xs using List.reverseRecOn with
  | nil =>
    constructor
    · rintro ⟨⟩
    · rintro ⟨i, hi, -⟩
      exact absurd hi.lt (Nat.not_lt_zero i)
  | append_singleton xs x ih =>
    rw [isLast_concat_iff, ← ih, List.filterMap_append]
    cases hx : f x with
    | none =>
      rw [List.filterMap_cons_none hx, List.filterMap_nil, List.append_nil]
      simp
    | some pair =>
      obtain ⟨k, w⟩ := pair
      rw [List.filterMap_cons_some hx, List.filterMap_nil, ofList_concat, get?_put]
      by_cases hk : k = key
      · subst hk
        simp
      · simp [hk]

/-- The names are those for which there is a value at some position. -/
lemma mem_keys_ofList_iff :
    key ∈ (ofList (xs.filterMap f)).keys ↔ ∃ i v, YieldsAt f xs i key v := by
  constructor
  · intro h
    obtain ⟨v, hv⟩ := exists_get?_iff.2 h
    obtain ⟨i, hi, -⟩ := get?_ofList_eq_some_iff.1 hv
    exact ⟨i, v, hi⟩
  · rintro ⟨i, v, x, hx, hf⟩
    have hpair : (key, v) ∈ xs.filterMap f :=
      List.mem_filterMap.2 ⟨x, List.mem_of_getElem? hx, hf⟩
    exact exists_get?_iff.1 (exists_get?_ofList (List.mem_map_of_mem hpair))

/-- The names stand in the order of their first positions. -/
lemma pairwise_keys_ofList :
    (ofList (xs.filterMap f)).keys.Pairwise fun a b =>
      ∃ i j, IsFirst (YieldsAt f xs) a i ∧ IsFirst (YieldsAt f xs) b j ∧ i < j := by
  induction xs using List.reverseRecOn with
  | nil => exact .nil
  | append_singleton xs x ih =>
    have hold : (ofList (xs.filterMap f)).keys.Pairwise fun a b => ∃ i j,
        IsFirst (YieldsAt f (xs ++ [x])) a i ∧ IsFirst (YieldsAt f (xs ++ [x])) b j ∧ i < j := by
      refine ih.imp ?_
      rintro a b ⟨i, j, hi, hj, hlt⟩
      exact ⟨i, j, hi.concat x, hj.concat x, hlt⟩
    rw [List.filterMap_append]
    cases hx : f x with
    | none =>
      rw [List.filterMap_cons_none hx, List.filterMap_nil, List.append_nil]
      exact hold
    | some pair =>
      obtain ⟨k, w⟩ := pair
      rw [List.filterMap_cons_some hx, List.filterMap_nil, ofList_concat, keys_put]
      split
      · exact hold
      · next hk =>
        refine List.pairwise_append.2 ⟨hold, List.pairwise_singleton _ _, fun a ha b hb => ?_⟩
        obtain rfl := List.mem_singleton.1 hb
        obtain ⟨_, _, hat⟩ := mem_keys_ofList_iff.1 ha
        obtain ⟨i, hi⟩ := exists_isFirst hat
        obtain ⟨_, hv⟩ := hi.1
        have hnew : ∀ i v, ¬YieldsAt f xs i b v := fun i v h =>
          hk (mem_keys_ofList_iff.2 ⟨i, v, h⟩)
        exact ⟨i, xs.length, hi.concat x, isFirst_length hnew hx, hv.lt⟩

/-! ## How many entries there are -/

/-- The names of the entries are among those that were given. -/
lemma keys_ofList_subperm (pairs : List (String × β)) :
    (ofList pairs).keys.Subperm (pairs.map Prod.fst) := by
  refine List.subperm_of_subset (nodup_keys_ofList pairs) fun key hkey => ?_
  obtain ⟨v, hv⟩ := exists_get?_iff.2 hkey
  exact List.mem_map.2 ⟨(key, v), mem_of_get?_ofList hv, rfl⟩

/-- There are no more entries than pairs. -/
lemma length_ofList_le (pairs : List (String × β)) : (ofList pairs).length ≤ pairs.length := by
  have hle := (keys_ofList_subperm pairs).length_le
  rwa [keys, List.length_map, List.length_map] at hle

/-- There are as many entries as pairs if and only if no name is given twice. -/
lemma length_ofList_eq_iff (pairs : List (String × β)) :
    (ofList pairs).length = pairs.length ↔ (pairs.map Prod.fst).Nodup := by
  constructor
  · intro hlength
    have hle : (pairs.map Prod.fst).length ≤ (ofList pairs).keys.length := by
      rw [keys, List.length_map, List.length_map, hlength]
    have hperm := (keys_ofList_subperm pairs).perm_of_length_le hle
    exact hperm.nodup_iff.1 (nodup_keys_ofList pairs)
  · intro hnodup
    rw [ofList_eq_self hnodup]

end TypedClient.Entries
