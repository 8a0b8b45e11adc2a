import Mathlib.Data.List.Induction
import TypedClient.Proofs.Route.Tree

/-!
# What insertion leaves alone

An endpoint that is put at a route is found there for its method in any letter case, and nothing else
changes that look-up can see (`RouteTree.Insertion.Updates`).  Of the nodes, those on the way to the
route have one endpoint more, if none has been replaced, and all others stay as they are.

So after a run of insertions each place holds what was put there last, or, if nothing was, what it
held before (`RouteTree.endpoint?_insertAll_iff`).
-/

namespace TypedClient.RouteTree

/-- An endpoint, and the route that it is put at. -/
structure Insertion where
  /-- The route. -/
  keys : List String
  /-- The endpoint. -/
  endpoint : Endpoint

namespace Insertion

/-- The endpoint is put at a route, and for a method in any letter case. -/
def IsAt (i : Insertion) (keys : List String) (method : String) : Prop :=
  keys = i.keys ∧ Text.lower method = i.endpoint.method

instance (i : Insertion) (keys : List String) (method : String) : Decidable (i.IsAt keys method) :=
  inferInstanceAs (Decidable (_ ∧ _))

/-- A tree, and the endpoint that has been replaced, are what an insertion makes of a tree. -/
structure Updates (i : Insertion) (t : RouteTree) (answer : Option Endpoint × RouteTree) : Prop where
  /-- The endpoint is found at its place. -/
  placed : ∀ keys method, i.IsAt keys method → answer.2.endpoint? keys method = some i.endpoint
  /-- What is found elsewhere is what was found there before. -/
  kept : ∀ keys method, ¬i.IsAt keys method →
    answer.2.endpoint? keys method = t.endpoint? keys method
  /-- The endpoint that has been replaced is the one that was found at the place before. -/
  replaced_eq : answer.1 = t.endpoint? i.keys i.endpoint.method
  /-- On the way to the route, each node has one endpoint more if none has been replaced, and as many
  as before otherwise; a node that was missing had none. -/
  onTheWay : ∀ keys, keys <+: i.keys → ∃ node, answer.2.find? keys = some node ∧
    node.endpointCount =
      ((t.find? keys).map endpointCount).getD 0 + if answer.1.isNone then 1 else 0
  /-- All other nodes are as they were, and there are no new ones. -/
  aside : ∀ keys, ¬keys <+: i.keys → answer.2.find? keys = t.find? keys

/-- The last of some insertions that were made at a place put an endpoint there. -/
def IsLast (insertions : List Insertion) (keys : List String) (method : String) (e : Endpoint) :
    Prop :=
  ∃ before i after, insertions = before ++ i :: after ∧ i.IsAt keys method ∧ i.endpoint = e ∧
    ∀ j ∈ after, ¬j.IsAt keys method

end Insertion

/-- The tree after insertions, one after the other. -/
def insertAll (insertions : List Insertion) (t : RouteTree) : RouteTree :=
  insertions.foldl (fun t i => (t.exchange i.endpoint i.keys).2) t

variable (e : Endpoint)

/-- The tree is the one after insertion, and the endpoint that it replaces is the one that was at the
place. -/
lemma exchange_eq (keys : List String) (t : RouteTree) :
    exchange e keys t = (at? keys e.method t, insert e keys t) := by
  induction keys generalizing t with
  | nil =>
    cases t with
    | node es cs => rfl
  | cons key keys ih =>
    cases t with
    | node es cs => rw [exchange, ih, insert, at?_cons, at?_getD_empty, children]

/-- After insertion, the endpoint is found at the place, and elsewhere what was found there before. -/
lemma endpoint?_insert (i : Insertion) (t : RouteTree) (keys : List String) (method : String) :
    (insert i.endpoint i.keys t).endpoint? keys method =
      if i.IsAt keys method then some i.endpoint else t.endpoint? keys method :=
  at?_insert i.endpoint i.keys (Text.lower method) t keys

/-! ## Nodes -/

/-- The node on the way to a route, where there is one before insertion, or an empty one otherwise,
takes the endpoint at the rest of the route. -/
lemma find?_insert_append (before rest : List String) (t : RouteTree) :
    find? before (insert e (before ++ rest) t) =
      some (insert e rest ((find? before t).getD empty)) := by
  induction before generalizing t with
  | nil => rfl
  | cons key before ih =>
    cases t with
    | node es cs =>
      rw [List.cons_append, insert, find?_cons, children, Entries.get?_put, if_pos rfl,
        Option.bind_some, ih, find?_cons, children]
      cases hnode : Entries.get? cs key with
      | some node => rfl
      | none =>
        -- Neither a missing node nor an empty one has nodes below.
        cases before <;> rfl

/-- A node that is not on the way to a route stays as it is. -/
lemma find?_insert_of_not_prefix {keys keys' : List String} (h : ¬keys' <+: keys) (t : RouteTree) :
    find? keys' (insert e keys t) = find? keys' t := by
  induction keys generalizing t keys' with
  | nil =>
    cases t with
    | node es cs =>
      cases keys' with
      | nil => exact absurd List.nil_prefix h
      | cons key' keys' => rfl
  | cons key keys ih =>
    cases t with
    | node es cs =>
      cases keys' with
      | nil => exact absurd List.nil_prefix h
      | cons key' keys' =>
        rw [insert, find?_cons, find?_cons, children, children, Entries.get?_put]
        split
        · next hkey =>
          subst hkey
          have hrest : ¬keys' <+: keys := fun hprefix =>
            h ((List.prefix_cons_inj key).2 hprefix)
          rw [Option.bind_some, ih hrest]
          cases hnode : Entries.get? cs key with
          | some node => rfl
          | none =>
            cases keys' with
            | nil => exact absurd List.nil_prefix hrest
            | cons key' keys' => rfl
        · rfl

/-- A missing node has no endpoints. -/
lemma endpointCount_getD_empty (node : Option RouteTree) :
    (node.getD empty).endpointCount = (node.map endpointCount).getD 0 := by
  cases node <;> rfl

/-- What is at a route is at the rest of the route of each node on the way. -/
lemma at?_append (before rest : List String) (method : String) (t : RouteTree) :
    at? (before ++ rest) method t = at? rest method ((find? before t).getD empty) := by
  induction before generalizing t with
  | nil => rfl
  | cons key before ih =>
    rw [List.cons_append, at?_cons, find?_cons]
    cases t.children.get? key with
    | none => exact (at?_empty rest method).symm
    | some node => exact ih node

/-- Each node on the way to a route has one endpoint more, unless there was one at the place. -/
lemma exists_find?_insert {keys keys' : List String} (h : keys' <+: keys) (t : RouteTree) :
    ∃ node, find? keys' (insert e keys t) = some node ∧
      node.endpointCount =
        ((find? keys' t).map endpointCount).getD 0 +
          if (at? keys e.method t).isNone then 1 else 0 := by
  obtain ⟨rest, rfl⟩ := h
  refine ⟨_, find?_insert_append e keys' rest t, ?_⟩
  rw [endpointCount_insert, endpointCount_getD_empty, ← at?_append]
  cases at? (keys' ++ rest) e.method t <;> rfl

/-! ## One insertion and several -/

/-- An insertion updates a tree at one place. -/
lemma Insertion.updates_exchange {i : Insertion}
    (h : Text.lower i.endpoint.method = i.endpoint.method) (t : RouteTree) :
    i.Updates t (t.exchange i.endpoint i.keys) := by
  rw [exchange_eq]
  constructor
  case placed =>
    intro keys method hat
    rw [endpoint?_insert, if_pos hat]
  case kept =>
    intro keys method hat
    rw [endpoint?_insert, if_neg hat]
  case replaced_eq =>
    rw [endpoint?, h]
  case onTheWay =>
    intro keys hkeys
    exact exists_find?_insert i.endpoint hkeys t
  case aside =>
    intro keys hkeys
    exact find?_insert_of_not_prefix i.endpoint hkeys t

/-- The last of insertions at a place is the one behind the others, or it is among those. -/
lemma Insertion.isLast_concat_iff {insertions : List Insertion} {i : Insertion} {keys : List String}
    {method : String} {e : Endpoint} :
    IsLast (insertions ++ [i]) keys method e ↔
      i.IsAt keys method ∧ i.endpoint = e ∨ ¬i.IsAt keys method ∧ IsLast insertions keys method e := by
  constructor
  · rintro ⟨before, last, after, hsplit, hat, he, hafter⟩
    rcases List.eq_nil_or_concat' after with rfl | ⟨after, j, rfl⟩
    · obtain ⟨-, rfl⟩ := List.append_singleton_inj.1 hsplit
      exact Or.inl ⟨hat, he⟩
    · rw [← List.cons_append, ← List.append_assoc] at hsplit
      obtain ⟨hinsertions, rfl⟩ := List.append_singleton_inj.1 hsplit
      have hlast : ¬i.IsAt keys method := hafter i (List.mem_append_right _ List.mem_cons_self)
      exact Or.inr ⟨hlast, before, last, after, hinsertions, hat, he,
        fun j hj => hafter j (List.mem_append_left _ hj)⟩
  · rintro (⟨hat, he⟩ | ⟨hnot, before, last, after, rfl, hat, he, hafter⟩)
    · exact ⟨insertions, i, [], rfl, hat, he, List.forall_mem_nil _⟩
    · refine ⟨before, last, after ++ [i], by rw [List.append_assoc, List.cons_append], hat, he, ?_⟩
      intro j hj
      rcases List.mem_append.1 hj with hj | hj
      · exact hafter j hj
      · rwa [List.mem_singleton.1 hj]

/-- After a run of insertions, a place holds the endpoint that was put there last, or, if none was put
there, the one that it held before. -/
theorem endpoint?_insertAll_iff (insertions : List Insertion) (t : RouteTree) (keys : List String)
    (method : String) :
    (t.insertAll insertions).endpoint? keys method = some e ↔
      Insertion.IsLast insertions keys method e ∨
        (∀ i ∈ insertions, ¬i.IsAt keys method) ∧ t.endpoint? keys method = some e := by
  induction insertions using List.reverseRecOn with
  | nil =>
    have hnone : ¬Insertion.IsLast [] keys method e := by
      rintro ⟨before, i, after, hsplit, -⟩
      simp at hsplit
    simp [insertAll, hnone]
  | append_singleton insertions i ih =>
    have hrun : t.insertAll (insertions ++ [i]) =
        (t.insertAll insertions).insert i.endpoint i.keys := by
      rw [insertAll, List.foldl_concat, exchange_eq, ← insertAll]
    rw [hrun, endpoint?_insert, Insertion.isLast_concat_iff, List.forall_mem_append,
      List.forall_mem_singleton]
    by_cases hat : i.IsAt keys method
    · rw [if_pos hat, Option.some_inj]
      simp only [hat, true_and, not_true, false_and, or_false, and_false]
    · rw [if_neg hat, ih]
      simp only [hat, false_and, not_false_eq_true, true_and, false_or, and_true]

/-- Each of some insertions, if its method is in lower case, updates whatever tree it is made in at
one place.  After all of them, each place holds the endpoint that was put there last, or, if none was
put there, the one that it held before. -/
theorem insertions_update {insertions : List Insertion}
    (h : ∀ i ∈ insertions, Text.lower i.endpoint.method = i.endpoint.method) :
    (∀ i ∈ insertions, ∀ t, i.Updates t (t.exchange i.endpoint i.keys)) ∧
      ∀ t keys method e, (insertAll insertions t).endpoint? keys method = some e ↔
        Insertion.IsLast insertions keys method e ∨
          (∀ i ∈ insertions, ¬i.IsAt keys method) ∧ t.endpoint? keys method = some e := by
  refine ⟨fun i hi t => Insertion.updates_exchange (h i hi) t, fun t keys method e => ?_⟩
  exact endpoint?_insertAll_iff e insertions t keys method

/-- An endpoint at a node, one at a node below it, and another one in place of the first. -/
def teamInsertions : List Insertion := [
  ⟨["teams"], { method := "get", path := "/teams" }⟩,
  ⟨["teams", "search"], { method := "get", path := "/teams/search" }⟩,
  ⟨["teams"], { method := "get", path := "/teams/" }⟩]

/-- The third insertion replaces the endpoint of the first, which is found for the method in capital
letters, and the endpoint below stays. -/
theorem teamInsertions_update :
    (∀ i ∈ teamInsertions, Text.lower i.endpoint.method = i.endpoint.method) ∧
      (∀ i ∈ teamInsertions, ∀ t, i.Updates t (t.exchange i.endpoint i.keys)) ∧
      (insertAll teamInsertions empty).endpoint? ["teams"] "GET" =
        some { method := "get", path := "/teams/" } ∧
      (insertAll teamInsertions empty).endpoint? ["teams", "search"] "get" =
        some { method := "get", path := "/teams/search" } := by
  have hlower : ∀ i ∈ teamInsertions, Text.lower i.endpoint.method = i.endpoint.method := by decide
  obtain ⟨hupdates, hfound⟩ := insertions_update hlower
  refine ⟨hlower, hupdates, (hfound _ _ _ _).2 (Or.inl ?_), (hfound _ _ _ _).2 (Or.inl ?_)⟩
  · exact ⟨teamInsertions.take 2, ⟨["teams"], { method := "get", path := "/teams/" }⟩, [], rfl,
      by decide, rfl, by decide⟩
  · exact ⟨teamInsertions.take 1, ⟨["teams", "search"], { method := "get", path := "/teams/search" }⟩,
      teamInsertions.drop 2, rfl, by decide, rfl, by decide⟩

end TypedClient.RouteTree
