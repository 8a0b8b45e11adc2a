import TypedClient.Entries
import TypedClient.Text.Case

/-!
# The tree of routes

The functions of a client, laid out by the segments of their paths.  A node holds the endpoints at
one route, by method, and the nodes one segment further.  `insert` puts an endpoint at a route, and
`endpoint?` finds it there.  `exchange` does the same as `insert`, and tells which endpoint has been
replaced.

In the written client the methods and the further segments of a node are members of one object.
`resolveCollisions` renames the segments that bear the name of a method.
-/

namespace TypedClient

/-- A function of the client. -/
structure Endpoint where
  /-- The method, in lower case. -/
  method : String
  /-- The path template. -/
  path : String
  /-- The identifier of the operation. -/
  operationId : Option String := none
  /-- A summary for human readers. -/
  summary : Option String := none
  /-- The name of the schema of its query. -/
  query : Option String := none
  /-- The name of the schema of its body. -/
  body : Option String := none
  /-- The name of the schema of its answer. -/
  response : Option String := none
deriving DecidableEq

/-- The method as it is sent. -/
def Endpoint.httpMethod (endpoint : Endpoint) : String := Text.upper endpoint.method

/-- A node of the tree of routes. -/
inductive RouteTree where
  /-- The endpoints by method, and the nodes below by key. -/
  | node (endpoints : List (String × Endpoint)) (children : List (String × RouteTree))
deriving Inhabited

namespace RouteTree

/-- The tree without endpoints. -/
def empty : RouteTree := .node [] []

/-- The endpoints at the node, by method. -/
def endpoints : RouteTree → Entries Endpoint
  | .node es _ => es

/-- The nodes below, by key. -/
def children : RouteTree → Entries RouteTree
  | .node _ cs => cs

/-- Puts an endpoint at a route. -/
def insert (endpoint : Endpoint) : List String → RouteTree → RouteTree
  | [], .node es cs => .node (Entries.put es endpoint.method endpoint) cs
  | key :: keys, .node es cs =>
    .node es (Entries.put cs key (insert endpoint keys ((Entries.get? cs key).getD empty)))

/-- Puts an endpoint at a route; the answer is the endpoint that was there, if there was one, and the
tree. -/
def exchange (endpoint : Endpoint) : List String → RouteTree → Option Endpoint × RouteTree
  | [], .node es cs =>
    (Entries.get? es endpoint.method, .node (Entries.put es endpoint.method endpoint) cs)
  | key :: keys, .node es cs =>
    let (previous, child) := exchange endpoint keys ((Entries.get? cs key).getD empty)
    (previous, .node es (Entries.put cs key child))

/-- The node at a route. -/
def find? : List String → RouteTree → Option RouteTree
  | [], tree => some tree
  | key :: keys, tree => (tree.children.get? key).bind (find? keys)

/-- The endpoint at a route whose method is exactly a given one. -/
def at? (keys : List String) (method : String) (tree : RouteTree) : Option Endpoint :=
  (tree.find? keys).bind fun node => node.endpoints.get? method

/-- The endpoint at a route for a method in any letter case. -/
def endpoint? (keys : List String) (method : String) (tree : RouteTree) : Option Endpoint :=
  tree.at? keys (Text.lower method)

mutual

/-- The number of endpoints at a node and below it. -/
def endpointCount : RouteTree → Nat
  | .node es cs => es.length + endpointCountOfAll cs

/-- The number of endpoints of several nodes. -/
def endpointCountOfAll : List (String × RouteTree) → Nat
  | [] => 0
  | (_, tree) :: rest => tree.endpointCount + endpointCountOfAll rest

end

/-! ## Collisions -/

/-- A key with `Path` behind it, once and a number of times more. -/
def extendedKey (key : String) : (more : Nat) → String
  | 0 => key ++ "Path"
  | more + 1 => extendedKey key more ++ "Path"

/-- The first extended key that is not taken; one of the first keys, as many as are taken and one
more, is free. -/
def freeKey (taken : List String) (key : String) : String :=
  (((List.range (taken.length + 1)).map (extendedKey key)).find? fun k => !taken.contains k).getD key

/-- Gives the node under a key another key. -/
def rename {α : Type} (old new : String) (children : List (String × α)) : List (String × α) :=
  children.map fun c => if c.1 = old then (new, c.2) else c

/-- Renames the keys of nodes that collide with methods, one after the other. -/
def renameColliding {α : Type} (methods : List String) (colliding : List String)
    (children : List (String × α)) : List (String × α) :=
  colliding.foldl (fun cs key => rename key (freeKey (methods ++ Entries.keys cs) key) cs) children

mutual

/-- Renames the keys that collide with methods, at the node and below it. -/
def resolveCollisions : RouteTree → RouteTree
  | .node es cs =>
    let methods := Entries.keys es
    .node es (renameColliding methods ((Entries.keys cs).filter methods.contains)
      (resolveCollisionsOfAll cs))

/-- Renames the keys that collide with methods below several nodes. -/
def resolveCollisionsOfAll : List (String × RouteTree) → List (String × RouteTree)
  | [] => []
  | (key, tree) :: rest => (key, tree.resolveCollisions) :: resolveCollisionsOfAll rest

end

end RouteTree

end TypedClient
