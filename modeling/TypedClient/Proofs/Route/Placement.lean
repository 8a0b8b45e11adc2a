import TypedClient.Blueprint
import TypedClient.Proofs.Document.Read

/-!
# Where the operations of a description are

If no two operations of a description conflict, then each of them has exactly one route, which
consists of the keys of its path, with the keys extended that collide with a method
(`Site.Follows`), and no two of them have one route and one method.  So no operation is lost, and
none is found in the place of another (`Routes.Placed`).  Otherwise the conflict between two
operations is reported (`Routes.ofDocument_placed`).
-/

namespace TypedClient

open RouteTree (newRoute extendedKey)

namespace Site

/-- An operation is at a route of a tree: for its method, an endpoint with its path, its identifier
and its summary is found there. -/
def IsAt (s : Site) (tree : RouteTree) (route : List String) : Prop :=
  ∃ e, tree.endpoint? route s.method = some e ∧ e.path = s.path ∧
    e.operationId = s.operation.operationId ∧ e.summary = s.operation.summary

/-- An operation of a description occupies a key behind other keys: they are the keys of its path,
and the key is its method. -/
def Occupies (s : Site) (before : List String) (key : String) : Prop :=
  s.keys = before ∧ s.method = key

/-- A route consists of the keys of an operation, which are extended if and only if some operation
occupies them. -/
structure Follows (document : Document) (s : Site) (route : List String) : Prop where
  /-- It is as long as the keys. -/
  length_eq : route.length = s.keys.length
  /-- A key that no operation occupies stays. -/
  kept : ∀ i key, s.keys[i]? = some key →
    (∀ o ∈ document.sites, ¬o.Occupies (s.keys.take i) key) → route[i]? = some key
  /-- A key that an operation occupies gets `Path` behind it, once or more. -/
  extended : ∀ i key, s.keys[i]? = some key →
    (∃ o ∈ document.sites, o.Occupies (s.keys.take i) key) →
      ∃ more, route[i]? = some (extendedKey key more)

end Site

namespace Routes

/-- Every operation of a description has its place among the routes. -/
structure Placed (document : Document) (routes : Routes) : Prop where
  /-- There are as many endpoints as operations. -/
  endpointCount : routes.tree.endpointCount = document.sites.length
  /-- Each operation is at exactly one route. -/
  existsUnique : ∀ s ∈ document.sites, ∃! route, s.IsAt routes.tree route
  /-- The route of an operation is made of its keys. -/
  follows : ∀ s ∈ document.sites, ∀ route, s.IsAt routes.tree route → s.Follows document route
  /-- No two operations have one route and one method. -/
  apart : document.sites.Pairwise fun a b => ∀ route,
    a.IsAt routes.tree route → b.IsAt routes.tree route → a.method ≠ b.method

variable {text : String} {document : Document} {order : SchemaOrder} {s : Site}
  {pairs : List (Site × Endpoint)} {routes : Routes}

/-- The operations that have been added are those that have an endpoint at their keys. -/
lemma Built.exists_at?_iff (h : Built document order pairs routes)
    (hsites : pairs.map Prod.fst = document.sites) {keys : List String} {method : String} :
    (∃ e, routes.tree.at? keys method = some e) ↔
      ∃ o ∈ document.sites, o.Occupies keys method := by
  constructor
  · rintro ⟨e, he⟩
    obtain ⟨o, ho, hplace⟩ := (h.at?_iff _ _ _).1 he
    exact ⟨o, hsites ▸ List.mem_map_of_mem ho, hplace⟩
  · rintro ⟨o, ho, hplace⟩
    rw [← hsites] at ho
    obtain ⟨⟨_, e⟩, hp, rfl⟩ := List.mem_map.1 ho
    exact ⟨e, (h.at?_iff _ _ _).2 ⟨_, hp, hplace⟩⟩

/-- The route of an operation is the new route of its keys. -/
lemma Built.isAt_iff (h : Built document order pairs routes)
    (hsites : pairs.map Prod.fst = document.sites) (hs : s ∈ document.sites)
    (hmethod : s.method ∈ httpMethods) {route : List String} :
    s.IsAt routes.tree.resolveCollisions route ↔ newRoute s.keys routes.tree = route := by
  rw [Site.IsAt, RouteTree.endpoint?, Document.lower_eq_self_of_mem_httpMethods _ hmethod]
  constructor
  · rintro ⟨e, he, hpath, -⟩
    obtain ⟨keys, hat, rfl⟩ := RouteTree.at?_resolveCollisions_iff.1 he
    obtain ⟨o, ho, rfl, -⟩ := (h.at?_iff _ _ _).1 hat
    -- The path of the endpoint is that of its own operation, and the keys come from the path.
    have hkeys : s.keys = o.keys := by
      rw [Site.keys, Site.keys, ← hpath, (h.isEndpoint _ ho).path_eq]
    rw [hkeys]
  · rintro rfl
    rw [← hsites] at hs
    obtain ⟨⟨_, e⟩, hp, rfl⟩ := List.mem_map.1 hs
    have he := h.isEndpoint _ hp
    have hat := (h.at?_iff _ _ _).2 ⟨_, hp, rfl, rfl⟩
    exact ⟨e, RouteTree.at?_resolveCollisions_iff.2 ⟨_, hat, rfl⟩, he.path_eq, he.operationId_eq,
      he.summary_eq⟩

/-- There is a node at the keys of an operation that has been added. -/
lemma Built.exists_find? (h : Built document order pairs routes)
    (hsites : pairs.map Prod.fst = document.sites) (hs : s ∈ document.sites) :
    ∃ node, routes.tree.find? s.keys = some node := by
  obtain ⟨e, he⟩ := (h.exists_at?_iff hsites).2 ⟨s, hs, rfl, rfl⟩
  obtain ⟨node, hnode, -⟩ := Option.bind_eq_some_iff.1 he
  exact ⟨node, hnode⟩

/-- The new route of the keys of an operation is made of them. -/
lemma Built.follows (h : Built document order pairs routes)
    (hsites : pairs.map Prod.fst = document.sites) (hs : s ∈ document.sites) :
    s.Follows document (newRoute s.keys routes.tree) := by
  obtain ⟨node, hnode⟩ := h.exists_find? hsites hs
  constructor
  case length_eq => exact RouteTree.length_newRoute
  case kept =>
    intro i key hkey hfree
    refine (RouteTree.getElem?_newRoute hnode hkey).1 ?_
    rw [Option.eq_none_iff_forall_ne_some]
    intro e he
    obtain ⟨o, ho, hplace⟩ := (h.exists_at?_iff hsites).1 ⟨e, he⟩
    exact hfree o ho hplace
  case extended =>
    intro i key hkey htaken
    obtain ⟨e, he⟩ := (h.exists_at?_iff hsites).2 htaken
    exact (RouteTree.getElem?_newRoute hnode hkey).2 (by simp [he])

/-- The operations of a description that has been read have their places among the routes. -/
lemma placed_of_ofDocument (hread : Document.read text = .ok document)
    (h : ofDocument document order = .ok routes) : Placed document routes := by
  obtain ⟨pairs, built, hsites, hbuilt, rfl⟩ := exists_built h
  have hisAt : ∀ s ∈ document.sites, ∀ route,
      s.IsAt built.tree.resolveCollisions route ↔ newRoute s.keys built.tree = route :=
    fun s hs _ => hbuilt.isAt_iff hsites hs (Document.method_mem_of_read hread hs)
  constructor
  case endpointCount =>
    dsimp only
    rw [RouteTree.endpointCount_resolveCollisions, hbuilt.endpointCount, ← hsites, List.length_map]
  case existsUnique =>
    intro s hs
    exact ⟨_, (hisAt s hs _).2 rfl, fun route hroute => ((hisAt s hs route).1 hroute).symm⟩
  case follows =>
    intro s hs route hroute
    obtain rfl := (hisAt s hs route).1 hroute
    exact hbuilt.follows hsites hs
  case apart =>
    have happart : document.sites.Pairwise fun a b => ¬a.Conflicts b :=
      exists_ofDocument_iff.1 ⟨_, h⟩
    refine happart.imp_of_mem fun {a b} ha hb hnot route hrouteA hrouteB => ?_
    intro hmethod
    obtain ⟨nodeA, hnodeA⟩ := hbuilt.exists_find? hsites ha
    obtain ⟨nodeB, hnodeB⟩ := hbuilt.exists_find? hsites hb
    have hsame : newRoute a.keys built.tree = newRoute b.keys built.tree :=
      ((hisAt a ha route).1 hrouteA).trans ((hisAt b hb route).1 hrouteB).symm
    have hkeys : a.keys = b.keys := RouteTree.newRoute_injective hnodeA hnodeB hsame
    exact hnot (Or.inr ⟨hkeys, hmethod⟩)

/-- The routes of a description that has been read come about, for every order of its named schemas,
if and only if no two of its operations have one identifier, or one list of keys and one method.
Otherwise a conflict between two of them is reported as an input fault.  If the routes come about,
every operation has its place. -/
theorem ofDocument_placed (hread : Document.read text = .ok document) (order : SchemaOrder) :
    ((∃ routes, ofDocument document order = .ok routes) ↔
      document.sites.Pairwise fun a b => ¬a.Conflicts b) ∧
    (∀ conflict, ofDocument document order = .error conflict →
      (∃ a b, [a, b].Sublist document.sites ∧ Site.Clash conflict a b) ∧
        (Blueprint.Failure.conflict conflict).toFault = .input conflict.message) ∧
    ∀ routes, ofDocument document order = .ok routes → Placed document routes := by
  refine ⟨exists_ofDocument_iff, ?_, ?_⟩
  · intro conflict h
    exact ⟨exists_clash_of_ofDocument h, rfl⟩
  · intro routes h
    exact placed_of_ofDocument hread h

/-- The text of a description of three operations, one of which has a path that goes on with the
method of another. -/
def collidingText : String :=
  "\x7b\"paths\": \x7b\"/a\": \x7b\"get\": \x7b\"operationId\": \"x\"\x7d, " ++
    "\"put\": \x7b\x7d\x7d, \"/a/get\": \x7b\"get\": \x7b\x7d\x7d\x7d\x7d"

/-- The events of the text. -/
def collidingEvents : List (Yaml.Event String) :=
  let key := fun text => Yaml.Event.scalar {} text false
  [.mappingStart {}, key "paths", .mappingStart {},
    key "/a", .mappingStart {},
      key "get", .mappingStart {}, key "operationId", key "x", .mappingEnd,
      key "put", .mappingStart {}, .mappingEnd, .mappingEnd,
    key "/a/get", .mappingStart {},
      key "get", .mappingStart {}, .mappingEnd, .mappingEnd, .mappingEnd, .mappingEnd]

/-- The value of the events. -/
def collidingValue : Yaml.Value :=
  .mapping [(.string "paths", .mapping [
    (.string "/a", .mapping [
      (.string "get", .mapping [(.string "operationId", .string "x")]),
      (.string "put", .mapping [])]),
    (.string "/a/get", .mapping [(.string "get", .mapping [])])])]

/-- The description that the text spells. -/
def collidingDocument : Document where
  paths := [
    ("/a", { operations := [("get", { operationId := some "x" }), ("put", {})] }),
    ("/a/get", { operations := [("get", {})] })]

/-- The text spells the description. -/
lemma read_collidingText : Document.read collidingText = .ok collidingDocument := by
  have hevents : (Yaml.tokens? collidingText.toList).bind Yaml.Event.ofTokens? =
      some collidingEvents := by decide +kernel
  have hvalue : Yaml.Value.ofEvents? collidingEvents = some collidingValue := by cbv
  exact Document.read_eq_ok_of_steps hevents hvalue rfl

/-- The operation at the path that goes on with a method is found under the extended key. -/
theorem collidingText_placed :
    Document.read collidingText = .ok collidingDocument ∧
      ∃ routes, ofDocument collidingDocument (.ofSchemas []) = .ok routes ∧
        Placed collidingDocument routes ∧
        (routes.tree.endpoint? ["a", "getPath"] "GET").map Endpoint.path = some "/a/get" := by
  have hplaced := ofDocument_placed read_collidingText (.ofSchemas [])
  have hroutes : (ofDocument collidingDocument (.ofSchemas [])).map
      (fun routes => (routes.tree.endpoint? ["a", "getPath"] "GET").map Endpoint.path) =
        .ok (some "/a/get") := rfl
  obtain ⟨routes, h, hfound⟩ := Except.map_eq_ok_iff.1 hroutes
  exact ⟨read_collidingText, routes, h, hplaced.2.2 routes h, hfound⟩

end Routes

end TypedClient
