import TypedClient.Proofs.Naming.FirstFree
import TypedClient.Proofs.Route.Tree

/-!
# Keys that collide with methods

At each node the keys of further segments get new names, which keep the keys apart: a key that is
the name of a method is extended, and any other stays (`RouteTree.Renames`).  So each route of a
tree has a new one (`RouteTree.newRoute`), and the endpoints are found under their new routes and
nowhere else (`RouteTree.at?_resolveCollisions_iff`).
-/

namespace TypedClient.RouteTree

/-! ## Free extensions -/

/-- An extended key is longer the more it is extended. -/
lemma length_extendedKey (key : String) (more : Nat) :
    (extendedKey key more).length = key.length + 4 * (more + 1) := by
  induction more with
  | zero =>
    rw [extendedKey, String.length_append]
    rfl
  | succ more ih =>
    have hpath : "Path".length = 4 := rfl
    rw [extendedKey, String.length_append, ih, hpath]
    omega

/-- The extensions of a key are pairwise different. -/
lemma extendedKey_injective (key : String) : Function.Injective (extendedKey key) := by
  intro m n h
  have hlength := congrArg String.length h
  rw [length_extendedKey, length_extendedKey] at hlength
  omega

/-- The free key is an extension that is not taken. -/
lemma freeKey_spec (taken : List String) (key : String) :
    ∃ more, freeKey taken key = extendedKey key more ∧ freeKey taken key ∉ taken := by
  obtain ⟨more, hfind, hfree, -⟩ :=
    Naming.exists_find?_eq_of_injective (extendedKey_injective key) taken
  have heq : freeKey taken key = extendedKey key more := by
    rw [freeKey, hfind]
    rfl
  exact ⟨more, heq, by rwa [heq]⟩

/-! ## New keys -/

/-- New names for keys: they keep the keys apart, extend the colliding ones and keep the others. -/
structure Renames (colliding keys : List String) (f : String → String) : Prop where
  /-- Different keys get different names. -/
  injective : ∀ k ∈ keys, ∀ k' ∈ keys, f k = f k' → k = k'
  /-- A key that does not collide stays. -/
  kept : ∀ k ∈ keys, k ∉ colliding → f k = k
  /-- A key that collides is extended. -/
  extended : ∀ k ∈ keys, k ∈ colliding → ∃ more, f k = extendedKey k more

/-- The keys of a list in which one key is renamed. -/
lemma keys_rename {α : Type} (old new : String) (cs : Entries α) :
    Entries.keys (rename old new cs) = cs.keys.map fun k => if k = old then new else k := by
  rw [Entries.keys, Entries.keys, rename, List.map_map, List.map_map]
  refine List.map_congr_left fun c _ => ?_
  rw [Function.comp_apply, Function.comp_apply]
  split <;> rfl

/-- To rename the colliding keys one after the other gives the keys new names. -/
lemma exists_renames {α : Type} {methods colliding : List String} (hsub : colliding ⊆ methods)
    (cs : Entries α) :
    ∃ f, Renames colliding cs.keys f ∧
      renameColliding methods colliding cs = cs.map fun c => (f c.1, c.2) := by
  induction colliding generalizing cs with
  | nil =>
    have hid : Renames [] cs.keys id := ⟨fun _ _ _ _ h => h, fun _ _ _ => rfl, by simp⟩
    exact ⟨id, hid, (List.map_id' cs).symm⟩
  | cons key rest ih =>
    obtain ⟨hkey, hrest⟩ := List.cons_subset.1 hsub
    obtain ⟨more, hmore, hfree⟩ := freeKey_spec (methods ++ cs.keys) key
    generalize hnew : freeKey (methods ++ cs.keys) key = new at hmore hfree
    rw [List.mem_append, not_or] at hfree
    let g : String → String := fun k => if k = key then new else k
    have hkeys : Entries.keys (rename key new cs) = cs.keys.map g := keys_rename key new cs
    obtain ⟨f, hf, hmap⟩ := ih hrest (rename key new cs)
    rw [hkeys] at hf
    have hg : ∀ {k}, k ∈ cs.keys → g k ∈ cs.keys.map g := fun hk => List.mem_map_of_mem hk
    -- The new name is no method, so it is not renamed again.
    have hnewRest : new ∉ rest := fun hmem => hfree.1 (hrest hmem)
    have hgkey : g key = new := if_pos rfl
    have hgother : ∀ {k}, k ≠ key → g k = k := fun hk => if_neg hk
    refine ⟨f ∘ g, ?_, ?_⟩
    · constructor
      case injective =>
        intro k hk k' hk' h
        have hgk : g k = g k' := hf.injective _ (hg hk) _ (hg hk') h
        by_cases hold : k = key <;> by_cases hold' : k' = key
        · rw [hold, hold']
        · rw [hold, hgkey, hgother hold'] at hgk
          exact absurd (hgk ▸ hk') hfree.2
        · rw [hold', hgkey, hgother hold] at hgk
          exact absurd (hgk ▸ hk) hfree.2
        · rwa [hgother hold, hgother hold'] at hgk
      case kept =>
        intro k hk hcolliding
        rw [List.mem_cons, not_or] at hcolliding
        have hgk := hgother hcolliding.1
        have hmem := hg hk
        rw [hgk] at hmem
        rw [Function.comp_apply, hgk, hf.kept k hmem hcolliding.2]
      case extended =>
        intro k hk hcolliding
        have hmem := hg hk
        rw [Function.comp_apply]
        by_cases hold : k = key
        · subst hold
          rw [hgkey] at hmem ⊢
          exact ⟨more, by rw [hf.kept new hmem hnewRest, hmore]⟩
        · rw [hgother hold] at hmem ⊢
          exact hf.extended k hmem ((List.mem_cons.1 hcolliding).resolve_left hold)
    · rw [renameColliding, List.foldl_cons, hnew]
      rw [renameColliding] at hmap
      rw [hmap, rename, List.map_map]
      refine List.map_congr_left fun c _ => ?_
      simp only [Function.comp_apply, g]
      split <;> rfl

/-! ## New routes -/

/-- The new name of a key of a node. -/
def newKey (t : RouteTree) (key : String) : String :=
  (Entries.get? (t.children.keys.zip t.resolveCollisions.children.keys) key).getD key

/-- The route that a route becomes when the keys get their new names. -/
def newRoute : List String → RouteTree → List String
  | [], _ => []
  | key :: keys, t => t.newKey key :: ((t.children.get? key).map (newRoute keys)).getD keys

/-- The nodes of a list with their keys renamed, each for itself. -/
@[simp] lemma resolveCollisionsOfAll_eq_map (cs : List (String × RouteTree)) :
    resolveCollisionsOfAll cs = cs.map fun c => (c.1, c.2.resolveCollisions) := by
  induction cs with
  | nil => rfl
  | cons c rest ih =>
    obtain ⟨key, t⟩ := c
    rw [resolveCollisionsOfAll, ih, List.map_cons]

/-- In a list of keys with their new names, the new name of a key is found under the key. -/
lemma get?_zip_map {keys : List String} {key : String} (hkey : key ∈ keys) (f : String → String) :
    Entries.get? (keys.zip (keys.map f)) key = some (f key) := by
  induction keys with
  | nil => simp at hkey
  | cons k rest ih =>
    rw [List.map_cons, List.zip_cons_cons, Entries.get?]
    split
    · next hk => rw [hk]
    · next hk => exact ih ((List.mem_cons.1 hkey).resolve_left (Ne.symm hk))

/-- At a node the children get their new keys, and the same is done below; the new keys are extended
where they collide with a method of the node. -/
lemma resolveCollisions_eq (t : RouteTree) :
    Renames t.endpoints.keys t.children.keys t.newKey ∧
      t.resolveCollisions = .node t.endpoints
        (t.children.map fun c => (t.newKey c.1, c.2.resolveCollisions)) := by
  cases t with
  | node es cs =>
    have hkeys : Entries.keys (cs.map fun c => (c.1, c.2.resolveCollisions)) = Entries.keys cs := by
      rw [Entries.keys, List.map_map]
      rfl
    have hmem : ∀ k, k ∈ (Entries.keys cs).filter (Entries.keys es).contains ↔
        k ∈ Entries.keys cs ∧ k ∈ Entries.keys es := fun k => by
      rw [List.mem_filter, List.contains_iff_mem]
    have hsub : (Entries.keys cs).filter (Entries.keys es).contains ⊆ Entries.keys es :=
      fun k hk => ((hmem k).1 hk).2
    obtain ⟨f, hf, hmap⟩ := exists_renames hsub (cs.map fun c => (c.1, c.2.resolveCollisions))
    rw [hkeys] at hf
    rw [List.map_map] at hmap
    have hresolve : (node es cs).resolveCollisions =
        .node es (cs.map fun c => (f c.1, c.2.resolveCollisions)) := by
      rw [resolveCollisions, resolveCollisionsOfAll_eq_map, hmap]
      rfl
    have hnewKey : ∀ k ∈ Entries.keys cs, (node es cs).newKey k = f k := by
      intro k hk
      have hkeys' : Entries.keys (cs.map fun c => (f c.1, c.2.resolveCollisions)) =
          (Entries.keys cs).map f := by
        rw [Entries.keys, Entries.keys, List.map_map, List.map_map]
        rfl
      rw [newKey, hresolve, children, children, hkeys', get?_zip_map hk, Option.getD_some]
    constructor
    · constructor
      case injective =>
        intro k hk k' hk' h
        rw [hnewKey k hk, hnewKey k' hk'] at h
        exact hf.injective k hk k' hk' h
      case kept =>
        intro k hk hmethod
        rw [hnewKey k hk]
        exact hf.kept k hk fun h => hmethod ((hmem k).1 h).2
      case extended =>
        intro k hk hmethod
        rw [hnewKey k hk]
        exact hf.extended k hk ((hmem k).2 ⟨hk, hmethod⟩)
    · rw [hresolve, endpoints, children]
      congr 1
      refine List.map_congr_left fun c hc => ?_
      rw [hnewKey c.1 (List.mem_map.2 ⟨c, hc, rfl⟩)]

variable {t : RouteTree} {keys keys' route : List String} {method : String} {e : Endpoint}

/-- The node at a route is found at the new route. -/
lemma find?_newRoute {found : RouteTree} (h : find? keys t = some found) :
    find? (newRoute keys t) t.resolveCollisions = some found.resolveCollisions := by
  induction keys generalizing t with
  | nil =>
    rw [find?_nil, Option.some_inj] at h
    rw [h, newRoute, find?_nil]
  | cons key keys ih =>
    rw [find?_cons, Option.bind_eq_some_iff] at h
    obtain ⟨child, hchild, hfound⟩ := h
    obtain ⟨hrenames, hresolve⟩ := resolveCollisions_eq t
    have hmem : key ∈ t.children.keys := Entries.mem_keys_of_get? hchild
    rw [newRoute, hchild, Option.map_some, Option.getD_some, hresolve, find?_cons, children,
      Entries.get?_renamed hrenames.injective hmem, hchild, Option.map_some, Option.bind_some]
    exact ih hfound

/-- Every node stands at the new route of some node. -/
lemma exists_newRoute {found : RouteTree} (h : find? route t.resolveCollisions = some found) :
    ∃ keys old, find? keys t = some old ∧ newRoute keys t = route ∧
      old.resolveCollisions = found := by
  induction route generalizing t with
  | nil => exact ⟨[], t, rfl, rfl, Option.some_inj.1 h⟩
  | cons name route ih =>
    rw [find?_cons, (resolveCollisions_eq t).2, children, Option.bind_eq_some_iff] at h
    obtain ⟨child', hchild', hfound⟩ := h
    obtain ⟨key, child, hchild, hname, rfl⟩ := Entries.exists_get?_of_get?_renamed hchild'
    obtain ⟨keys, old, hold, hroute, hresolve⟩ := ih hfound
    refine ⟨key :: keys, old, ?_, ?_, hresolve⟩
    · rw [find?_cons, hchild, Option.bind_some, hold]
    · rw [newRoute, hname, hchild, Option.map_some, Option.getD_some, hroute]

/-- Different nodes have different new routes. -/
lemma newRoute_injective {found found' : RouteTree} (h : find? keys t = some found)
    (h' : find? keys' t = some found') (heq : newRoute keys t = newRoute keys' t) :
    keys = keys' := by
  induction keys generalizing t keys' with
  | nil =>
    cases keys' with
    | nil => rfl
    | cons key' keys' => simp [newRoute] at heq
  | cons key keys ih =>
    cases keys' with
    | nil => simp [newRoute] at heq
    | cons key' keys' =>
      rw [find?_cons, Option.bind_eq_some_iff] at h h'
      obtain ⟨child, hchild, hfound⟩ := h
      obtain ⟨child', hchild', hfound'⟩ := h'
      rw [newRoute, newRoute, hchild, hchild', List.cons.injEq] at heq
      have hmem : key ∈ t.children.keys := Entries.mem_keys_of_get? hchild
      have hmem' : key' ∈ t.children.keys := Entries.mem_keys_of_get? hchild'
      obtain rfl : key = key' :=
        (resolveCollisions_eq t).1.injective key hmem key' hmem' heq.1
      obtain rfl : child = child' := Option.some_inj.1 (hchild.symm.trans hchild')
      rw [ih hfound hfound' heq.2]

/-- The endpoints of a node stay. -/
@[simp] lemma endpoints_resolveCollisions (t : RouteTree) :
    t.resolveCollisions.endpoints = t.endpoints := by
  rw [(resolveCollisions_eq t).2, endpoints]

/-- The endpoints are found under the new routes, and nowhere else. -/
theorem at?_resolveCollisions_iff :
    at? route method t.resolveCollisions = some e ↔
      ∃ keys, at? keys method t = some e ∧ newRoute keys t = route := by
  simp only [at?, Option.bind_eq_some_iff]
  constructor
  · rintro ⟨found, hfound, he⟩
    obtain ⟨keys, old, hold, hroute, rfl⟩ := exists_newRoute hfound
    exact ⟨keys, ⟨old, hold, by rwa [endpoints_resolveCollisions] at he⟩, hroute⟩
  · rintro ⟨keys, ⟨old, hold, he⟩, rfl⟩
    exact ⟨_, find?_newRoute hold, by rwa [endpoints_resolveCollisions]⟩

/-- The number of endpoints stays. -/
theorem endpointCount_resolveCollisions (t : RouteTree) :
    t.resolveCollisions.endpointCount = t.endpointCount := by
  induction t using RouteTree.inductionOn with
  | node es cs ih =>
    rw [(resolveCollisions_eq _).2, endpointCount, endpointCount, endpoints, children,
      endpointCountOfAll_map ih]

/-- A new route is as long as the route. -/
@[simp] lemma length_newRoute : (newRoute keys t).length = keys.length := by
  induction keys generalizing t with
  | nil => rfl
  | cons key keys ih =>
    rw [newRoute, List.length_cons, List.length_cons]
    cases t.children.get? key with
    | none => rfl
    | some child => rw [Option.map_some, Option.getD_some, ih]

/-- A segment of the route of a node stays, unless the node before it has a method of this name;
then it is extended. -/
lemma getElem?_newRoute {found : RouteTree} (h : find? keys t = some found) {i : Nat} {key : String}
    (hkey : keys[i]? = some key) :
    (at? (keys.take i) key t = none → (newRoute keys t)[i]? = some key) ∧
      (at? (keys.take i) key t ≠ none →
        ∃ more, (newRoute keys t)[i]? = some (extendedKey key more)) := by
  induction keys generalizing t i with
  | nil => simp at hkey
  | cons k keys ih =>
    rw [find?_cons, Option.bind_eq_some_iff] at h
    obtain ⟨child, hchild, hfound⟩ := h
    cases i with
    | zero =>
      obtain rfl : k = key := by simpa using hkey
      have hrenames := (resolveCollisions_eq t).1
      have hmem := Entries.mem_keys_of_get? hchild
      rw [List.take_zero, at?_nil, newRoute, List.getElem?_cons_zero]
      constructor
      · intro hnone
        rw [hrenames.kept k hmem fun hmethod => ?_]
        obtain ⟨e, he⟩ := Entries.exists_get?_iff.2 hmethod
        rw [hnone] at he
        cases he
      · intro hsome
        obtain ⟨e, he⟩ := Option.ne_none_iff_exists'.1 hsome
        obtain ⟨more, hmore⟩ := hrenames.extended k hmem (Entries.mem_keys_of_get? he)
        exact ⟨more, by rw [hmore]⟩
    | succ i =>
      rw [List.getElem?_cons_succ] at hkey
      rw [List.take_succ_cons, at?_cons, hchild, Option.bind_some, newRoute, hchild,
        Option.map_some, Option.getD_some, List.getElem?_cons_succ]
      exact ih hfound hkey

end TypedClient.RouteTree
