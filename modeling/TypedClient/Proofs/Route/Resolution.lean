import TypedClient.Proofs.Route.Collisions
import TypedClient.Proofs.TypeScript.Tokens
import TypedClient.TypeScript.Client

/-!
# Trees without collisions

What becomes of a tree of routes as a whole when its collisions are resolved
(`RouteTree.resolved_resolveCollisions`).  Every node stays where it is, with its endpoints, and a
key changes only if it is a method of its node (`RouteTree.SameLayout`).  At no node of the new tree
is a key a method (`RouteTree.Apart`), so that the members of each written object have different
names, and nothing is left to be resolved.
-/

namespace TypedClient.RouteTree

/-! ## Properties of all nodes -/

/-- A property that a tree and all trees below it have. -/
inductive Everywhere (P : RouteTree → Prop) : RouteTree → Prop where
  | node {es : Entries Endpoint} {cs : Entries RouteTree} (here : P (.node es cs))
      (below : ∀ c ∈ cs, Everywhere P c.2) : Everywhere P (.node es cs)

lemma everywhere_node_iff {P : RouteTree → Prop} {es : Entries Endpoint} {cs : Entries RouteTree} :
    Everywhere P (.node es cs) ↔ P (.node es cs) ∧ ∀ c ∈ cs, Everywhere P c.2 := by
  constructor
  · rintro ⟨here, below⟩
    exact ⟨here, below⟩
  · rintro ⟨here, below⟩
    exact .node here below

/-- What follows at each node follows everywhere. -/
lemma Everywhere.imp {P Q : RouteTree → Prop} (himp : ∀ t, P t → Q t) {t : RouteTree}
    (h : Everywhere P t) : Everywhere Q t := by
  induction h with
  | node here _ ih => exact .node (himp _ here) ih

/-- Two properties that hold everywhere hold together everywhere. -/
lemma Everywhere.and {P Q : RouteTree → Prop} {t : RouteTree} (hP : Everywhere P t)
    (hQ : Everywhere Q t) : Everywhere (fun t => P t ∧ Q t) t := by
  induction hP with
  | node here _ ih =>
    obtain ⟨hQhere, hQbelow⟩ := everywhere_node_iff.1 hQ
    exact .node ⟨here, hQhere⟩ fun c hc => ih c hc (hQbelow c hc)

/-- The names of the members of the object that is written for a node. -/
def memberNames (t : RouteTree) : List String := t.endpoints.keys ++ t.children.keys

/-- Neither a method nor a key of the node is repeated. -/
def KeysUnique (t : RouteTree) : Prop := t.endpoints.keys.Nodup ∧ t.children.keys.Nodup

/-- No key of the node is one of its methods. -/
def Apart (t : RouteTree) : Prop := ∀ key ∈ t.children.keys, key ∉ t.endpoints.keys

/-- Where no key is repeated and none is a method, the members of the object are written with
different names. -/
lemma nodup_memberNames {t : RouteTree} (hunique : t.KeysUnique) (hapart : t.Apart) :
    (t.memberNames.map TypeScript.keyText).Nodup := by
  have hnames : t.memberNames.Nodup :=
    List.nodup_append.2 ⟨hunique.1, hunique.2, fun method hmethod key hkey heq =>
      hapart key hkey (heq ▸ hmethod)⟩
  refine hnames.map fun key key' heq => ?_
  have hkeys : TypeScript.objectKey key = TypeScript.objectKey key' := String.ofList_injective heq
  have hcolon : TypeScript.objectKey key ++ [':'] = TypeScript.objectKey key' ++ [':'] := by
    rw [hkeys]
  exact (TypeScript.eq_of_objectKey_append hcolon).1

/-! ## The layout stays -/

/-- A key with what it may become at a node: it stays unless it is a method, and is extended if it
is one. -/
def KeyMoves (methods : List String) (key key' : String) : Prop :=
  (key ∉ methods → key' = key) ∧ (key ∈ methods → ∃ more, key' = extendedKey key more)

/-- Two trees with the same endpoints at the same positions; the keys of the second one are those
of the first, extended where they are methods. -/
inductive SameLayout : RouteTree → RouteTree → Prop where
  | node {es : Entries Endpoint} {cs cs' : Entries RouteTree} (length_eq : cs'.length = cs.length)
      (keys : ∀ i (h : i < cs.length), KeyMoves es.keys cs[i].1 cs'[i].1)
      (below : ∀ i (h : i < cs.length), SameLayout cs[i].2 cs'[i].2) :
      SameLayout (.node es cs) (.node es cs')

/-- The tree without collisions has the layout of the tree. -/
lemma sameLayout_resolveCollisions (t : RouteTree) : SameLayout t t.resolveCollisions := by
  induction t using RouteTree.inductionOn with
  | node es cs ih =>
    obtain ⟨hrenames, hresolve⟩ := resolveCollisions_eq (.node es cs)
    rw [hresolve, endpoints, children]
    refine .node (List.length_map _) (fun i hi => ?_) fun i hi => ?_
    · have hkey : cs[i].1 ∈ Entries.keys cs := List.mem_map_of_mem (List.getElem_mem hi)
      rw [List.getElem_map]
      exact ⟨hrenames.kept _ hkey, hrenames.extended _ hkey⟩
    · rw [List.getElem_map]
      exact ih _ (List.getElem_mem hi)

/-- Where the keys are unique, they are unique after the collisions are resolved. -/
lemma everywhere_keysUnique {t : RouteTree} (h : Everywhere KeysUnique t) :
    Everywhere KeysUnique t.resolveCollisions := by
  induction h with
  | @node es cs here _ ih =>
    obtain ⟨hrenames, hresolve⟩ := resolveCollisions_eq (.node es cs)
    rw [hresolve]
    refine .node ⟨here.1, ?_⟩ ?_
    · have hkeys : Entries.keys (cs.map fun c => ((node es cs).newKey c.1, c.2.resolveCollisions)) =
          (Entries.keys cs).map (node es cs).newKey := by
        rw [Entries.keys, Entries.keys, List.map_map, List.map_map]
        rfl
      rw [children, children, hkeys]
      exact List.Nodup.map_on (fun k hk k' hk' => hrenames.injective k hk k' hk') here.2
    · intro c hc
      obtain ⟨old, hold, rfl⟩ := List.mem_map.1 hc
      exact ih old hold

/-! ## Nothing collides any more -/

/-- After keys have been renamed, a key that is a method was there before and was not to be
renamed. -/
lemma mem_keys_of_renameColliding {α : Type} {methods colliding : List String} {cs : Entries α}
    {key : String} (h : key ∈ Entries.keys (renameColliding methods colliding cs))
    (hmethod : key ∈ methods) : key ∈ cs.keys ∧ key ∉ colliding := by
  induction colliding generalizing cs with
  | nil => exact ⟨h, List.not_mem_nil⟩
  | cons old rest ih =>
    obtain ⟨-, -, hfree⟩ := freeKey_spec (methods ++ cs.keys) old
    rw [List.mem_append, not_or] at hfree
    obtain ⟨hkey, hrest⟩ := ih h
    rw [keys_rename] at hkey
    obtain ⟨k, hk, rfl⟩ := List.mem_map.1 hkey
    -- The key that has just been given is no method.
    split at hmethod
    · exact absurd hmethod hfree.1
    · next hold =>
      rw [if_neg hold] at hrest ⊢
      exact ⟨hk, List.not_mem_cons_of_ne_of_not_mem hold hrest⟩

/-- At no node of the tree without collisions is a key a method. -/
lemma everywhere_apart (t : RouteTree) : Everywhere Apart t.resolveCollisions := by
  induction t using RouteTree.inductionOn with
  | node es cs ih =>
    obtain ⟨-, hresolve⟩ := resolveCollisions_eq (.node es cs)
    have hbelow : ∀ c ∈ (node es cs).resolveCollisions.children, Everywhere Apart c.2 := by
      intro c hc
      rw [hresolve, children] at hc
      obtain ⟨old, hold, rfl⟩ := List.mem_map.1 hc
      exact ih old hold
    rw [resolveCollisions] at hbelow ⊢
    refine .node (fun key hkey hmethod => ?_) hbelow
    obtain ⟨hold, hfilter⟩ := mem_keys_of_renameColliding hkey hmethod
    rw [resolveCollisionsOfAll_eq_map, Entries.keys, List.map_map] at hold
    exact hfilter (List.mem_filter.2 ⟨hold, List.contains_iff_mem.2 hmethod⟩)

/-- A tree in which no key is a method stays as it is. -/
lemma resolveCollisions_eq_self {t : RouteTree} (h : Everywhere Apart t) :
    t.resolveCollisions = t := by
  induction h with
  | @node es cs here _ ih =>
    have hbelow : resolveCollisionsOfAll cs = cs := by
      rw [resolveCollisionsOfAll_eq_map]
      refine (List.map_congr_left fun c hc => ?_).trans (List.map_id cs)
      rw [ih c hc, id]
    have hnone : (Entries.keys cs).filter (Entries.keys es).contains = [] := by
      refine List.filter_eq_nil_iff.2 fun key hkey hmethod => ?_
      exact here key hkey (List.contains_iff_mem.1 hmethod)
    rw [resolveCollisions, hbelow, hnone]
    rfl

/-! ## The tree as a whole -/

/-- What the tree without collisions is to the tree that it comes from. -/
structure Resolved (t t' : RouteTree) : Prop where
  /-- The nodes and their endpoints are where they were, and only keys that are methods are
  extended. -/
  layout : SameLayout t t'
  /-- No key is a method of its node. -/
  apart : Everywhere Apart t'
  /-- Neither methods nor keys are repeated, so that no two nodes have become one. -/
  unique : Everywhere KeysUnique t'
  /-- The members of each written object have different names. -/
  members : Everywhere (fun node => (node.memberNames.map TypeScript.keyText).Nodup) t'
  /-- There are as many endpoints as before. -/
  endpointCount_eq : t'.endpointCount = t.endpointCount
  /-- Nothing is left to be resolved. -/
  settled : t'.resolveCollisions = t'

/-- The collisions of a tree are resolved: keys that are methods are extended, nothing else changes,
and no key is a method any more. -/
theorem resolved_resolveCollisions {t : RouteTree} (h : Everywhere KeysUnique t) :
    Resolved t t.resolveCollisions := by
  have hapart := everywhere_apart t
  have hunique := everywhere_keysUnique h
  constructor
  case layout => exact sameLayout_resolveCollisions t
  case apart => exact hapart
  case unique => exact hunique
  case members =>
    exact (hunique.and hapart).imp fun _ hnode => nodup_memberNames hnode.1 hnode.2
  case endpointCount_eq => exact endpointCount_resolveCollisions t
  case settled => exact resolveCollisions_eq_self hapart

/-- An endpoint at the root. -/
def rootEndpoint : Endpoint := { method := "get", path := "/" }

/-- A node with an endpoint and nothing below. -/
def leaf : RouteTree := node [("get", rootEndpoint)] []

/-- A node with two methods that are keys as well, the one an extension of the other; a further key
is what the next extension would be.  One step further there is a collision again. -/
def crowded : RouteTree :=
  node [("get", rootEndpoint), ("getPath", rootEndpoint)]
    [("getPathPath", leaf), ("get", node [("get", rootEndpoint)] [("get", leaf), ("x", leaf)]),
      ("getPath", leaf)]

/-- The same routes without collisions. -/
def crowdedResolved : RouteTree :=
  node [("get", rootEndpoint), ("getPath", rootEndpoint)]
    [("getPathPath", leaf),
      ("getPathPathPath", node [("get", rootEndpoint)] [("getPath", leaf), ("x", leaf)]),
      ("getPathPathPathPath", leaf)]

/-- The new keys of a node keep away from its methods, from its other keys and from each other. -/
theorem crowded_resolved :
    Everywhere KeysUnique crowded ∧ crowded.resolveCollisions = crowdedResolved ∧
      Resolved crowded crowdedResolved := by
  have hleaf : Everywhere KeysUnique leaf :=
    .node (by simp [KeysUnique, endpoints, children]) (by simp)
  have hinner : Everywhere KeysUnique (node [("get", rootEndpoint)] [("get", leaf), ("x", leaf)]) :=
    .node (by simp [KeysUnique, endpoints, children]) (by simp [hleaf])
  have hcrowded : Everywhere KeysUnique crowded :=
    .node (by simp [KeysUnique, endpoints, children]) (by simp [hleaf, hinner])
  have hresolve : crowded.resolveCollisions = crowdedResolved := by rfl
  exact ⟨hcrowded, hresolve, hresolve ▸ resolved_resolveCollisions hcrowded⟩

end TypedClient.RouteTree
