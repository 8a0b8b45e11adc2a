import TypedClient.Proofs.Entries
import TypedClient.Route.Tree

/-!
# Insertion into the tree of routes

The tree of routes is a table from routes and methods to endpoints, and `RouteTree.insert` is an
update of this table at one place (`RouteTree.at?_insert`).  It adds an endpoint to the tree if
there was none at the place, and replaces the one there otherwise
(`RouteTree.endpointCount_insert`).
-/

namespace TypedClient

namespace RouteTree

variable (e : Endpoint) (key : String) (keys : List String) (method : String)

/-- Induction over a tree, with the hypothesis for each node one segment further. -/
@[elab_as_elim]
theorem inductionOn {motive : RouteTree → Prop} (t : RouteTree)
    (node : ∀ es cs, (∀ c ∈ cs, motive c.2) → motive (.node es cs)) : motive t :=
  @RouteTree.rec motive (fun cs => ∀ c ∈ cs, motive c.2) (fun c => motive c.2) node
    (by simp) (fun _ _ hc hrest => List.forall_mem_cons.2 ⟨hc, hrest⟩) (fun _ _ h => h) t

/-- To exchange each node for one with as many endpoints keeps the number of all. -/
lemma endpointCountOfAll_map {f : String × RouteTree → String × RouteTree}
    {cs : List (String × RouteTree)}
    (h : ∀ c ∈ cs, (f c).2.endpointCount = c.2.endpointCount) :
    endpointCountOfAll (cs.map f) = endpointCountOfAll cs := by
  induction cs with
  | nil => rfl
  | cons c rest ih =>
    rw [List.forall_mem_cons] at h
    rw [List.map_cons, endpointCountOfAll, endpointCountOfAll, h.1, ih h.2]

/-! ## Look-up -/

@[simp] lemma find?_nil (t : RouteTree) : find? [] t = some t := rfl

@[simp] lemma find?_cons (t : RouteTree) :
    find? (key :: keys) t = (t.children.get? key).bind (find? keys) := rfl

@[simp] lemma at?_nil (t : RouteTree) : at? [] method t = t.endpoints.get? method := rfl

@[simp] lemma at?_cons (t : RouteTree) :
    at? (key :: keys) method t = (t.children.get? key).bind (at? keys method) := by
  simp only [at?, find?_cons, Option.bind_assoc]
  rfl

/-- The empty tree has no endpoints. -/
@[simp] lemma at?_empty : at? keys method empty = none := by
  cases keys <;> rfl

/-- A node that is missing has the endpoints of an empty one. -/
lemma at?_getD_empty (node : Option RouteTree) :
    at? keys method (node.getD empty) = node.bind (at? keys method) := by
  cases node with
  | none => exact at?_empty keys method
  | some t => rfl

/-! ## Insertion -/

/-- Insertion changes the endpoint at the place of insertion, and no other. -/
theorem at?_insert (t : RouteTree) (keys' : List String) :
    at? keys' method (insert e keys t) =
      if keys' = keys ∧ method = e.method then some e else at? keys' method t := by
  induction keys generalizing t keys' with
  | nil =>
    cases t with
    | node es cs =>
      cases keys' with
      | nil =>
        rw [insert, at?_nil, at?_nil, endpoints, endpoints, Entries.get?_put]
        simp only [true_and, eq_comm]
      | cons k ks => simp [insert, children]
  | cons key keys ih =>
    cases t with
    | node es cs =>
      cases keys' with
      | nil => simp [insert, endpoints]
      | cons k ks =>
        rw [insert, at?_cons, at?_cons, children, children, Entries.get?_put]
        by_cases hk : key = k
        · subst hk
          rw [if_pos rfl, Option.bind_some, ih, at?_getD_empty]
          simp only [List.cons.injEq, true_and]
        · rw [if_neg hk, if_neg]
          rintro ⟨hkeys, -⟩
          exact hk (List.cons.inj hkeys).1.symm

/-- To put a node under a key exchanges the endpoints of the node there, if any, for its own. -/
lemma endpointCountOfAll_put (cs : Entries RouteTree) (t : RouteTree) :
    endpointCountOfAll (cs.put key t) + ((cs.get? key).getD empty).endpointCount =
      endpointCountOfAll cs + t.endpointCount := by
  induction cs with
  | nil => simp [Entries.put, endpointCountOfAll, empty, endpointCount]
  | cons c rest ih =>
    obtain ⟨k, s⟩ := c
    rw [Entries.put, Entries.get?]
    split
    · simp only [endpointCountOfAll, Option.getD_some]
      omega
    · simp only [endpointCountOfAll]
      omega

/-- Insertion adds one endpoint, unless there is already one at the place. -/
theorem endpointCount_insert (t : RouteTree) :
    (insert e keys t).endpointCount =
      t.endpointCount + if (at? keys e.method t).isSome then 0 else 1 := by
  induction keys generalizing t with
  | nil =>
    cases t with
    | node es cs =>
      rw [insert, endpointCount, endpointCount, Entries.length_put, at?_nil, endpoints]
      omega
  | cons key keys ih =>
    cases t with
    | node es cs =>
      have hput := endpointCountOfAll_put key cs
        (insert e keys ((Entries.get? cs key).getD empty))
      rw [ih, at?_getD_empty] at hput
      rw [insert, endpointCount, endpointCount, at?_cons, children]
      omega

end RouteTree

end TypedClient
