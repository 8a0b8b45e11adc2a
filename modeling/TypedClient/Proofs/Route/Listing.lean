import TypedClient.Proofs.Blueprint.Endpoints

/-!
# The list of all endpoints

The call functions of a client are written node by node, so what is written is given by the list of
the endpoints at a node and below it (`RouteTree.allEndpoints`).  In the tree of a blueprint an
endpoint is listed if and only if it is found at some route (`Blueprint.mem_allEndpoints_iff`): no
endpoint is listed behind another one that hides it.
-/

namespace TypedClient

namespace RouteTree

mutual

/-- The endpoints at a node and below it, each with the method under which it stands. -/
def allEndpoints : RouteTree → List (String × Endpoint)
  | .node es cs => es ++ allEndpointsBelow cs

/-- The endpoints of several nodes. -/
def allEndpointsBelow : List (String × RouteTree) → List (String × Endpoint)
  | [] => []
  | (_, t) :: rest => t.allEndpoints ++ allEndpointsBelow rest

end

variable {t : RouteTree} {x : String × Endpoint}

/-- The endpoints of several nodes are those of each. -/
lemma allEndpointsBelow_eq_flatMap (cs : List (String × RouteTree)) :
    allEndpointsBelow cs = cs.flatMap fun c => c.2.allEndpoints := by
  induction cs with
  | nil => rfl
  | cons c rest ih => rw [allEndpointsBelow, ih, List.flatMap_cons]

/-- What is found at a route is listed. -/
lemma mem_allEndpoints_of_at? {keys : List String} {method : String} {e : Endpoint}
    (h : t.at? keys method = some e) : (method, e) ∈ t.allEndpoints := by
  induction keys generalizing t with
  | nil =>
    cases t with
    | node es cs => exact List.mem_append_left _ (Entries.mem_of_get? h)
  | cons key keys ih =>
    cases t with
    | node es cs =>
      rw [at?_cons, Option.bind_eq_some_iff] at h
      obtain ⟨child, hchild, hat⟩ := h
      rw [allEndpoints, allEndpointsBelow_eq_flatMap]
      have hmem : (method, e) ∈ cs.flatMap fun c => c.2.allEndpoints :=
        List.mem_flatMap.2 ⟨_, Entries.mem_of_get? hchild, ih hat⟩
      exact List.mem_append_right _ hmem

/-- Insertion lists the inserted endpoint and otherwise nothing that was not listed. -/
lemma mem_allEndpoints_of_insert {e : Endpoint} {keys : List String}
    (h : x ∈ (insert e keys t).allEndpoints) : x = (e.method, e) ∨ x ∈ t.allEndpoints := by
  induction keys generalizing t with
  | nil =>
    cases t with
    | node es cs =>
      rw [insert, allEndpoints, List.mem_append] at h
      rcases h with h | h
      · rcases Entries.mem_of_mem_put h with h | h
        · exact Or.inr (List.mem_append_left _ h)
        · exact Or.inl h
      · exact Or.inr (List.mem_append_right _ h)
  | cons key keys ih =>
    cases t with
    | node es cs =>
      rw [insert, allEndpoints, allEndpointsBelow_eq_flatMap, List.mem_append,
        List.mem_flatMap] at h
      rw [allEndpoints, allEndpointsBelow_eq_flatMap, List.mem_append, List.mem_flatMap]
      rcases h with h | ⟨c, hc, h⟩
      · exact Or.inr (Or.inl h)
      rcases Entries.mem_of_mem_put hc with hc | rfl
      · exact Or.inr (Or.inr ⟨c, hc, h⟩)
      rcases ih h with h | h
      · exact Or.inl h
      cases hchild : Entries.get? cs key with
      | none =>
        rw [hchild, Option.getD_none] at h
        cases h
      | some child =>
        rw [hchild, Option.getD_some] at h
        exact Or.inr (Or.inr ⟨_, Entries.mem_of_get? hchild, h⟩)

/-- New keys for nodes change nothing about the list. -/
lemma allEndpoints_resolveCollisions (t : RouteTree) :
    t.resolveCollisions.allEndpoints = t.allEndpoints := by
  induction t using inductionOn with
  | node es cs ih =>
    rw [(resolveCollisions_eq _).2, allEndpoints, allEndpoints, allEndpointsBelow_eq_flatMap,
      allEndpointsBelow_eq_flatMap, List.flatMap_map]
    exact congrArg (es ++ ·) (List.flatMap_congr fun c hc => ih c hc)

/-- Every listed endpoint is found at some route. -/
def AllFound (t : RouteTree) : Prop := ∀ x ∈ t.allEndpoints, ∃ keys, t.at? keys x.1 = some x.2

/-- Nothing is listed in the empty tree. -/
lemma allFound_empty : empty.AllFound := fun _ hx => absurd hx List.not_mem_nil

/-- Insertion at a place where nothing is found hides no endpoint. -/
lemma AllFound.insert (h : t.AllFound) {e : Endpoint} {keys : List String}
    (hfree : t.at? keys e.method = none) : (t.insert e keys).AllFound := by
  intro x hx
  rcases mem_allEndpoints_of_insert hx with rfl | hx
  · exact ⟨keys, by rw [at?_insert, if_pos ⟨rfl, rfl⟩]⟩
  · obtain ⟨keys', hat⟩ := h x hx
    have hother : ¬(keys' = keys ∧ x.1 = e.method) := by
      rintro ⟨rfl, hmethod⟩
      rw [hmethod, hfree] at hat
      cases hat
    exact ⟨keys', by rw [at?_insert, if_neg hother, hat]⟩

/-- New keys for nodes hide no endpoint. -/
lemma AllFound.resolveCollisions (h : t.AllFound) : t.resolveCollisions.AllFound := by
  intro x hx
  rw [allEndpoints_resolveCollisions] at hx
  obtain ⟨keys, hat⟩ := h x hx
  exact ⟨newRoute keys t, at?_resolveCollisions_iff.2 ⟨keys, hat, rfl⟩⟩

end RouteTree

namespace Routes

variable {document : Document} {order : SchemaOrder} {routes routes' : Routes}

/-- An operation that is added hides no endpoint. -/
lemma allFound_addSite (h : routes.tree.AllFound) {s : Site}
    (hadd : addSite document order routes s = .ok routes') : routes'.tree.AllFound := by
  obtain ⟨-, hfree, rfl⟩ := addOperation_eq_ok_iff.1 hadd
  obtain ⟨hendpoint, -⟩ := isEndpoint_endpointOf document order routes.inline s
  refine h.insert ?_
  rw [hendpoint.method_eq]
  exact hfree

/-- Every endpoint of the routes of a description is found at some route. -/
lemma allFound_ofDocument (h : ofDocument document order = .ok routes) : routes.tree.AllFound := by
  rw [ofDocument_eq, Except.map_eq_ok_iff] at h
  obtain ⟨built, hbuilt, rfl⟩ := h
  have hall : built.tree.AllFound :=
    Except.foldlM_induction (fun routes => routes.tree.AllFound)
      (fun _ _ _ hall hadd => allFound_addSite hall hadd) RouteTree.allFound_empty hbuilt
  exact hall.resolveCollisions

end Routes

namespace Blueprint

variable {strict : Bool} {document : Document} {blueprint : Blueprint}

/-- The endpoints of a blueprint are those that are found at some route. -/
theorem mem_allEndpoints_iff (h : ofDocument strict document = .ok blueprint) {method : String}
    {e : Endpoint} :
    (method, e) ∈ blueprint.tree.allEndpoints ↔
      ∃ route, blueprint.tree.at? route method = some e := by
  obtain ⟨schemas, routes, -, hroutes, -, rfl⟩ := ofDocument_eq_ok_iff.1 h
  exact ⟨fun hmem => Routes.allFound_ofDocument hroutes _ hmem,
    fun ⟨_, hat⟩ => RouteTree.mem_allEndpoints_of_at? hat⟩

end Blueprint

end TypedClient
