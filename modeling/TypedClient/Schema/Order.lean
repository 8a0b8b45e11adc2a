import TypedClient.Schema.Basic
import TypedClient.Schema.Pointer

/-!
# The order of named schemas

A schema depends on the named schemas that it refers to.  `SchemaOrder.ofSchemas` lists the names so
that a schema comes after those it depends on, except where that is impossible because the
dependencies run in a circle.  The search goes depth first along the dependencies; the names on the
way from its start to the current schema are its `path`, and a dependency that lies on the path is
passed over, which cuts the circle there.

A reference from one schema to another is *forward* if the other one does not come earlier in the
order.
-/

namespace TypedClient

/-- The texts of a list without repetitions, each at its first place. -/
def distinct : List String → List String
  | [] => []
  | x :: rest => x :: (distinct rest).filter (· != x)

/-- The names that a schema refers to, in the order of their first occurrence from left to right.
They need not be the names of schemas of the document. -/
def Schema.dependencies (s : Schema) : List String :=
  distinct (s.references.filterMap Pointer.schemaName?)

/-- For each name, the names that its schema depends on. -/
abbrev DependencyGraph := Entries (List String)

namespace DependencyGraph

/-- The graph of a list of named schemas. -/
def ofSchemas (schemas : Entries Schema) : DependencyGraph :=
  schemas.mapValues Schema.dependencies

/-- The names of the graph that are not on a path. -/
def offPath (graph : DependencyGraph) (path : List String) : List String :=
  (Entries.keys graph).filter fun name => !path.contains name

theorem length_offPath_cons_lt (graph : DependencyGraph) {path : List String} {name : String}
    (hmem : name ∈ Entries.keys graph) (hpath : name ∉ path) :
    (offPath graph (name :: path)).length < (offPath graph path).length := by
  have hsub : offPath graph (name :: path) = (offPath graph path).filter (· != name) := by
    simp only [offPath, List.filter_filter]
    refine List.filter_congr fun x _ => ?_
    by_cases hx : x = name <;> simp [hx]
  rw [hsub]
  have hin : name ∈ offPath graph path := by
    simp [offPath, hmem, hpath]
  exact List.length_filter_lt_length_iff_exists.2 ⟨name, hin, by simp⟩

end DependencyGraph

/-- Visits names one after the other, each after the names it depends on.  `path` holds the names
whose visit has begun and not ended, `done` those whose visit has ended, in that order. -/
def DependencyGraph.visit (graph : DependencyGraph) (path done : List String) :
    (names : List String) → List String
  | [] => done
  | name :: rest =>
    if _hseen : name ∈ path ∨ name ∈ done then graph.visit path done rest
    else
      match _hneeded : Entries.get? graph name with
      | none => graph.visit path done rest
      | some needed => graph.visit path (graph.visit (name :: path) done needed ++ [name]) rest
termination_by names => ((graph.offPath path).length, names.length)
decreasing_by
  · exact Prod.Lex.right _ (by simp)
  · exact Prod.Lex.right _ (by simp)
  · exact Prod.Lex.left _ _ (graph.length_offPath_cons_lt (Entries.mem_keys_of_get? _hneeded)
      fun hpath => _hseen (Or.inl hpath))
  · exact Prod.Lex.right _ (by simp)

/-- Names in an order. -/
structure SchemaOrder where
  /-- The names, from first to last. -/
  names : List String
deriving DecidableEq

namespace SchemaOrder

/-- The order of a list of named schemas: dependencies first. -/
def ofSchemas (schemas : Entries Schema) : SchemaOrder :=
  ⟨(DependencyGraph.ofSchemas schemas).visit [] [] schemas.keys⟩

/-- The place of a name, counted from zero. -/
def place? (order : SchemaOrder) (name : String) : Option Nat := order.names.idxOf? name

/-- Whether a name is in the order. -/
def contains (order : SchemaOrder) (name : String) : Bool := order.names.contains name

/-- The name in the order that a pointer leads to. -/
def target? (order : SchemaOrder) (pointer : String) : Option String :=
  (Pointer.schemaName? pointer).filter order.contains

/-- Whether a reference from one schema to another is forward: the other one is the same or comes
later. -/
def isForward (order : SchemaOrder) (current target : String) : Bool :=
  match order.place? current, order.place? target with
  | some i, some j => i ≤ j
  | _, _ => false

end SchemaOrder

end TypedClient
