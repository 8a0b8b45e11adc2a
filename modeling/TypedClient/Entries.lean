/-!
# Entries

Named values in the order in which their names were first given: the members of an object, the
schemas of a document, the children of a route.  A name that is put again keeps its place and takes
the new value, so that a list built by `put` alone never repeats a name (`nodup_keys_ofList`).

`get?_put` and `keys_put` say what `put` does to the two views of the list, the value under a name
and the order of the names.
-/

namespace TypedClient

/-- Named values in the order in which their names were first given. -/
abbrev Entries (α : Type) := List (String × α)

namespace Entries

variable {α β : Type}

/-- The names, in order. -/
def keys (es : Entries α) : List String := es.map Prod.fst

/-- The values, in order. -/
def values (es : Entries α) : List α := es.map Prod.snd

/-- The value under a name. -/
def get? : Entries α → String → Option α
  | [], _ => none
  | (k, v) :: rest, key => if k = key then some v else get? rest key

/-- Whether a name is present. -/
def contains (es : Entries α) (key : String) : Bool := (es.get? key).isSome

/-- Sets the value under a name: in place if the name is present, at the end otherwise. -/
def put : Entries α → String → α → Entries α
  | [], key, v => [(key, v)]
  | (k, w) :: rest, key, v => if k = key then (key, v) :: rest else (k, w) :: put rest key v

/-- Puts the pairs one after the other: a name keeps its first place and takes its last value. -/
def ofList (pairs : List (String × α)) : Entries α :=
  pairs.foldl (fun es pair => es.put pair.1 pair.2) []

/-- Applies a function to every value and keeps the names. -/
def mapValues (f : α → β) (es : Entries α) : Entries β := es.map fun e => (e.1, f e.2)

/-! ## What `put` does to the two views -/

@[simp] theorem get?_nil (key : String) : get? ([] : Entries α) key = none := rfl

@[simp] theorem keys_nil : keys ([] : Entries α) = [] := rfl

@[simp] theorem keys_cons (e : String × α) (es : Entries α) : keys (e :: es) = e.1 :: keys es := rfl

theorem get?_put (es : Entries α) (key : String) (v : α) (other : String) :
    (es.put key v).get? other = if key = other then some v else es.get? other := by
  induction es with
  | nil => simp [put, get?]
  | cons e rest ih =>
    obtain ⟨k, w⟩ := e
    by_cases h : k = key
    · subst h
      by_cases h' : k = other <;> simp [put, get?, h']
    · by_cases h' : k = other
      · subst h'
        simp [put, get?, h, Ne.symm h]
      · simp [put, get?, h, h', ih]

theorem contains_iff_mem_keys (es : Entries α) (key : String) :
    es.contains key = true ↔ key ∈ es.keys := by
  induction es with
  | nil => simp [contains]
  | cons e rest ih =>
    obtain ⟨k, w⟩ := e
    by_cases h : k = key
    · simp [contains, get?, h]
    · have h' : key ≠ k := fun e => h e.symm
      simpa [contains, get?, h, h'] using ih

theorem mem_keys_of_get? {es : Entries α} {key : String} {v : α} (h : es.get? key = some v) :
    key ∈ es.keys :=
  (contains_iff_mem_keys es key).1 (by simp [contains, h])

theorem keys_put (es : Entries α) (key : String) (v : α) :
    (es.put key v).keys = if key ∈ es.keys then es.keys else es.keys ++ [key] := by
  induction es with
  | nil => simp [put]
  | cons e rest ih =>
    obtain ⟨k, w⟩ := e
    by_cases h : k = key
    · simp [put, h]
    · have h' : key ≠ k := fun e => h e.symm
      simp only [put, h, if_false, keys_cons, ih, List.mem_cons, h', false_or]
      by_cases hm : key ∈ keys rest <;> simp [hm]

theorem nodup_keys_put {es : Entries α} (h : es.keys.Nodup) (key : String) (v : α) :
    (es.put key v).keys.Nodup := by
  rw [keys_put]
  split
  · exact h
  · next hk =>
    refine List.nodup_append.2 ⟨h, by simp, ?_⟩
    intro a ha b hb
    rw [List.mem_singleton.1 hb]
    exact fun e => hk (e ▸ ha)

/-- A list built by putting pairs never repeats a name. -/
theorem nodup_keys_ofList (pairs : List (String × α)) : (ofList pairs).keys.Nodup := by
  suffices h : ∀ es : Entries α, es.keys.Nodup →
      (pairs.foldl (fun es pair => es.put pair.1 pair.2) es).keys.Nodup from h [] (by simp)
  induction pairs with
  | nil => exact fun _ h => h
  | cons p rest ih => exact fun es h => ih _ (nodup_keys_put h p.1 p.2)

@[simp] theorem keys_mapValues (f : α → β) (es : Entries α) : (es.mapValues f).keys = es.keys := by
  simp [mapValues, keys]

theorem get?_mapValues (f : α → β) (es : Entries α) (key : String) :
    (es.mapValues f).get? key = (es.get? key).map f := by
  induction es with
  | nil => rfl
  | cons e rest ih =>
    obtain ⟨k, w⟩ := e
    by_cases h : k = key
    · simp [mapValues, get?, h]
    · simpa [mapValues, get?, h] using ih

end Entries

end TypedClient
