import Mathlib.Data.List.Nodup
import TypedClient.Entries

/-!
# Named values, looked up and put together

What is found under a name is one of the named values.  Putting pairs with different names together
changes nothing (`ofList_eq_self`), and where names repeat, each value found is one of those given
(`mem_of_get?_ofList`).  New names move the values, if they keep the names apart (`get?_renamed`).
-/

namespace TypedClient.Entries

variable {α : Type} {key : String} {v : α}

/-- What is found under a name is one of the named values. -/
lemma mem_of_get? {es : Entries α} (h : es.get? key = some v) : (key, v) ∈ es := by
  induction es with
  | nil => simp at h
  | cons e rest ih =>
    obtain ⟨k, w⟩ := e
    rw [get?] at h
    split at h
    · next hkey =>
      rw [Option.some_inj] at h
      subst hkey h
      exact List.mem_cons_self
    · exact List.mem_cons_of_mem _ (ih h)

/-- A named value is found under its name, if no other one has that name. -/
lemma get?_of_mem {es : Entries α} (hnodup : es.keys.Nodup) (h : (key, v) ∈ es) :
    es.get? key = some v := by
  induction es with
  | nil => simp at h
  | cons e rest ih =>
    obtain ⟨k, w⟩ := e
    rw [keys_cons, List.nodup_cons] at hnodup
    rw [get?]
    rcases List.mem_cons.1 h with h | h
    · obtain ⟨rfl, rfl⟩ := Prod.mk.inj h
      rw [if_pos rfl]
    · have hkey : k ≠ key := by
        rintro rfl
        exact hnodup.1 (List.mem_map.2 ⟨_, h, rfl⟩)
      rw [if_neg hkey]
      exact ih hnodup.2 h

/-- A name is present if and only if something is found under it. -/
lemma exists_get?_iff {es : Entries α} : (∃ v, es.get? key = some v) ↔ key ∈ es.keys := by
  rw [← contains_iff_mem_keys, contains, Option.isSome_iff_exists]

/-- Nothing is found under a name if and only if the name is not present. -/
lemma get?_eq_none_iff {es : Entries α} : es.get? key = none ↔ key ∉ es.keys := by
  rw [← exists_get?_iff, not_exists, Option.eq_none_iff_forall_ne_some]

/-- A new name comes to the end. -/
lemma put_of_not_mem {es : Entries α} (h : key ∉ es.keys) : es.put key v = es ++ [(key, v)] := by
  induction es with
  | nil => rfl
  | cons e rest ih =>
    obtain ⟨k, w⟩ := e
    rw [keys_cons, List.mem_cons, not_or] at h
    rw [put, if_neg (Ne.symm h.1), ih h.2, List.cons_append]

/-- What is among the entries after a value has been put under a name was there before, or it is
the value with the name. -/
lemma mem_of_mem_put {es : Entries α} {e : String × α} (h : e ∈ es.put key v) :
    e ∈ es ∨ e = (key, v) := by
  induction es with
  | nil => exact Or.inr (List.mem_singleton.1 h)
  | cons first rest ih =>
    obtain ⟨k, w⟩ := first
    rw [put] at h
    split at h
    · rcases List.mem_cons.1 h with rfl | h
      · exact Or.inr rfl
      · exact Or.inl (List.mem_cons_of_mem _ h)
    · rcases List.mem_cons.1 h with rfl | h
      · exact Or.inl List.mem_cons_self
      · exact (ih h).imp_left (List.mem_cons_of_mem _)

/-- Putting pairs with different names one after the other yields the pairs. -/
lemma ofList_eq_self {pairs : List (String × α)} (h : (pairs.map Prod.fst).Nodup) :
    ofList pairs = pairs := by
  have hfold : ∀ (pairs : List (String × α)) (es : Entries α),
      (keys (es ++ pairs)).Nodup →
        pairs.foldl (fun es pair => es.put pair.1 pair.2) es = es ++ pairs := by
    intro pairs
    induction pairs with
    | nil => simp
    | cons p rest ih =>
      intro es hes
      have hp : p.1 ∉ es.keys := by
        rw [keys, List.map_append, List.nodup_append] at hes
        exact fun hmem => hes.2.2 _ hmem _ List.mem_cons_self rfl
      rw [List.foldl_cons, put_of_not_mem hp, ih _ (by simpa using hes), List.append_assoc]
      rfl
  exact hfold pairs [] h

/-- What is found after putting pairs together is one of the values given. -/
lemma mem_of_get?_ofList {pairs : List (String × α)} (h : (ofList pairs).get? key = some v) :
    (key, v) ∈ pairs := by
  have hfold : ∀ (pairs : List (String × α)) (es : Entries α),
      get? (pairs.foldl (fun es pair => es.put pair.1 pair.2) es) key = some v →
        (key, v) ∈ pairs ∨ es.get? key = some v := by
    intro pairs
    induction pairs with
    | nil => exact fun _ h => Or.inr h
    | cons p rest ih =>
      intro es h
      rcases ih _ h with hrest | hput
      · exact Or.inl (List.mem_cons_of_mem _ hrest)
      · rw [get?_put] at hput
        split at hput
        · next hkey =>
          rw [Option.some_inj] at hput
          rw [← hkey, ← hput]
          exact Or.inl List.mem_cons_self
        · exact Or.inr hput
  exact (hfold pairs [] h).resolve_right (by simp)

/-- Something is found under each name after putting pairs together. -/
lemma exists_get?_ofList {pairs : List (String × α)} (h : key ∈ pairs.map Prod.fst) :
    ∃ v, (ofList pairs).get? key = some v := by
  have hfold : ∀ (pairs : List (String × α)) (es : Entries α),
      key ∈ pairs.map Prod.fst ∨ key ∈ es.keys →
        key ∈ keys (pairs.foldl (fun es pair => es.put pair.1 pair.2) es) := by
    intro pairs
    induction pairs with
    | nil => exact fun es hkey => hkey.resolve_left List.not_mem_nil
    | cons p rest ih =>
      intro es hkey
      refine ih _ ?_
      rw [List.map_cons, List.mem_cons, or_right_comm] at hkey
      refine hkey.symm.imp_right fun hfirst => ?_
      rw [keys_put]
      split
      · next hp => exact hfirst.elim (fun heq => heq ▸ hp) id
      · exact hfirst.elim (fun heq => heq ▸ List.mem_append_right _ List.mem_cons_self)
          (List.mem_append_left _)
  exact exists_get?_iff.2 (hfold pairs [] (Or.inl h))

/-- What is among the entries after putting pairs together is one of the pairs. -/
lemma mem_of_mem_ofList {pairs : List (String × α)} {e : String × α} (h : e ∈ ofList pairs) :
    e ∈ pairs :=
  mem_of_get?_ofList (get?_of_mem (nodup_keys_ofList pairs) h)

/-- To put a value under a name adds an entry if the name is new. -/
lemma length_put (es : Entries α) (key : String) (v : α) :
    (es.put key v).length = es.length + if (es.get? key).isSome then 0 else 1 := by
  induction es with
  | nil => rfl
  | cons e rest ih =>
    obtain ⟨k, w⟩ := e
    rw [put, get?]
    split
    · simp
    · rw [List.length_cons, ih, List.length_cons]
      omega

/-! ## More names -/

/-- Everything that is found among some entries is found under the same name among others. -/
def Within (es others : Entries α) : Prop :=
  ∀ key v, es.get? key = some v → others.get? key = some v

/-- What is not found among more entries is not found among fewer. -/
lemma Within.get?_eq_none {es others : Entries α} (h : es.Within others)
    (hkey : others.get? key = none) : es.get? key = none := by
  cases hes : es.get? key with
  | none => rfl
  | some v => rw [h key v hes] at hkey; cases hkey

/-- Entries behind others hide none of them. -/
lemma within_append (es more : Entries α) : es.Within (es ++ more) := by
  intro key v h
  induction es with
  | nil => cases h
  | cons e rest ih =>
    obtain ⟨k, w⟩ := e
    rw [List.cons_append, get?]
    rw [get?] at h
    split at h
    · next hk => rw [if_pos hk, h]
    · next hk => rw [if_neg hk, ih h]

/-- What is found under a name does not depend on the order of the entries, if their names are
different. -/
lemma get?_eq_of_perm {es others : Entries α} (h : es.Perm others) (hnodup : es.keys.Nodup)
    (key : String) : es.get? key = others.get? key := by
  have hothers : others.keys.Nodup := (h.map Prod.fst).nodup_iff.1 hnodup
  have hmem : ∀ v, es.get? key = some v ↔ others.get? key = some v := fun v =>
    ⟨fun hv => get?_of_mem hothers (h.mem_iff.1 (mem_of_get? hv)),
      fun hv => get?_of_mem hnodup (h.mem_iff.2 (mem_of_get? hv))⟩
  exact Option.ext hmem

/-! ## Several names at once -/

/-- To leave out names leaves what is found under the others. -/
lemma get?_filter (p : String → Bool) (es : Entries α) (key : String) :
    get? (es.filter fun e => p e.1) key = if p key then es.get? key else none := by
  induction es with
  | nil => simp
  | cons e rest ih =>
    obtain ⟨k, w⟩ := e
    rw [List.filter_cons]
    by_cases hk : k = key
    · subst hk
      by_cases hp : p k = true
      · rw [if_pos hp, if_pos hp, get?, get?, if_pos rfl, if_pos rfl]
      · rw [if_neg hp, ih, if_neg hp, if_neg hp]
    · rw [get?, if_neg hk, ← ih]
      split
      · rw [get?, if_neg hk]
      · rfl

/-- After several values have been put under different names, each of them is found, and what was
there before is found under the other names. -/
lemma get?_foldl_put {pairs : Entries α} (hnodup : pairs.keys.Nodup) (es : Entries α)
    (key : String) :
    get? (pairs.foldl (fun es pair => es.put pair.1 pair.2) es) key =
      (pairs.get? key).or (es.get? key) := by
  induction pairs generalizing es with
  | nil => rfl
  | cons pair rest ih =>
    obtain ⟨k, w⟩ := pair
    rw [keys_cons, List.nodup_cons] at hnodup
    rw [List.foldl_cons, ih hnodup.2, get?_put, get?]
    by_cases hk : k = key
    · subst hk
      have hrest : get? rest k = none := get?_eq_none_iff.2 hnodup.1
      rw [hrest, if_pos rfl, if_pos rfl, Option.none_or, Option.some_or]
    · rw [if_neg hk, if_neg hk]

/-- To put several values under names repeats no name. -/
lemma nodup_keys_foldl_put (pairs : List (String × α)) {es : Entries α} (h : es.keys.Nodup) :
    (keys (pairs.foldl (fun es pair => es.put pair.1 pair.2) es)).Nodup := by
  induction pairs generalizing es with
  | nil => exact h
  | cons pair rest ih => exact ih (nodup_keys_put h pair.1 pair.2)

/-! ## New names -/

section Renamed

variable {β : Type} {f : String → String} {g : α → β} {es : Entries α}

/-- Where new names keep the names apart, each value is found under the new name of its name. -/
lemma get?_renamed (hf : ∀ k ∈ es.keys, ∀ k' ∈ es.keys, f k = f k' → k = k')
    (hkey : key ∈ es.keys) :
    get? (es.map fun e => (f e.1, g e.2)) (f key) = (es.get? key).map g := by
  induction es with
  | nil => simp at hkey
  | cons e rest ih =>
    obtain ⟨k, w⟩ := e
    rw [List.map_cons, get?, get?]
    by_cases hk : k = key
    · rw [if_pos (congrArg f hk), if_pos hk, Option.map_some]
    · have hrest : key ∈ keys rest := by
        rw [keys_cons, List.mem_cons] at hkey
        exact hkey.resolve_left (Ne.symm hk)
      rw [if_neg fun h => hk (hf k List.mem_cons_self key hkey h), if_neg hk]
      exact ih (fun k hk k' hk' => hf k (List.mem_cons_of_mem _ hk) k' (List.mem_cons_of_mem _ hk'))
        hrest

/-- What is found under a new name is found under a name with this new name. -/
lemma exists_get?_of_get?_renamed {name : String} {v : β}
    (h : get? (es.map fun e => (f e.1, g e.2)) name = some v) :
    ∃ key w, es.get? key = some w ∧ f key = name ∧ g w = v := by
  induction es with
  | nil => simp at h
  | cons e rest ih =>
    obtain ⟨k, w⟩ := e
    rw [List.map_cons, get?] at h
    split at h
    · next hk => exact ⟨k, w, by rw [get?, if_pos rfl], hk, Option.some_inj.1 h⟩
    · next hk =>
      obtain ⟨key, x, hget, rfl, hv⟩ := ih h
      refine ⟨key, x, ?_, rfl, hv⟩
      rw [get?, if_neg fun e => hk (congrArg f e), hget]

end Renamed

end TypedClient.Entries
