import TypedClient.Proofs.Entries
import TypedClient.Proofs.Naming.FirstFree
import TypedClient.Proofs.Outcome
import TypedClient.Route.OfDocument

/-!
# The names of schemas of single operations

A claimed name is new: neither a named schema nor an earlier claim has it.  So while the routes of
a description are built, the names in the table of claims stay apart from each other and from those
of the named schemas (`apart_ofDocument`).
-/

namespace TypedClient

namespace InlineSchemas

/-- The names of a table are different from each other and from those of an order. -/
structure Apart (order : SchemaOrder) (table : InlineSchemas) : Prop where
  /-- No name occurs twice. -/
  nodup : (Entries.keys table).Nodup
  /-- No name is in the order. -/
  not_mem : ∀ name ∈ Entries.keys table, name ∉ order.names

variable (order : SchemaOrder) (table : InlineSchemas) (wanted : String) (schema : Schema)

/-- A claimed name is none of the table and none of the order. -/
lemma claim_fresh :
    (claim order table wanted schema).1 ∉ Entries.keys table ∧
      (claim order table wanted schema).1 ∉ order.names := by
  have h := Naming.firstFree_not_mem (Entries.keys table ++ order.names) wanted
  rwa [List.mem_append, not_or] at h

/-- A claim adds the schema under its name to the end of the table. -/
lemma claim_eq :
    (claim order table wanted schema).2 =
      table ++ [((claim order table wanted schema).1, schema)] :=
  Entries.put_of_not_mem (claim_fresh order table wanted schema).1

/-- A claim adds its name to the end of the names. -/
lemma keys_claim :
    Entries.keys (claim order table wanted schema).2 =
      Entries.keys table ++ [(claim order table wanted schema).1] := by
  rw [claim_eq, Entries.keys, List.map_append]
  rfl

/-- A claim keeps the table apart from the order. -/
lemma Apart.claim {order : SchemaOrder} {table : InlineSchemas} (h : Apart order table) :
    Apart order (claim order table wanted schema).2 := by
  obtain ⟨hnew, horder⟩ := claim_fresh order table wanted schema
  constructor
  case nodup =>
    rw [keys_claim, ← List.concat_eq_append]
    exact h.nodup.concat hnew
  case not_mem =>
    intro name hname
    rw [keys_claim, List.mem_append, List.mem_singleton] at hname
    rcases hname with hname | rfl
    · exact h.not_mem name hname
    · exact horder

end InlineSchemas

namespace Routes

open InlineSchemas (Apart)

variable (document : Document) (order : SchemaOrder)

/-- The name of the body of an operation, and the table after the claim that it may need. -/
def bodyClaim (table : InlineSchemas) (path method : String) (operation : Operation) :
    Option String × InlineSchemas :=
  match operation.requestSchema? with
  | none => (none, table)
  | some schema =>
    match schema.component? order with
    | some name => (some name, table)
    | none =>
      let claimed := table.claim order
        (Naming.inputName operation.operationId method path "Input") schema
      (some claimed.1, claimed.2)

/-- The name of the query of an operation, and the table after the claim that it may need. -/
def queryClaim (table : InlineSchemas) (path : String) (item : PathItem) (method : String)
    (operation : Operation) : Option String × InlineSchemas :=
  match querySchema? (document.queryParameters item operation) with
  | none => (none, table)
  | some schema =>
    let claimed := table.claim order
      (Naming.inputName operation.operationId method path "Query") schema
    (some claimed.1, claimed.2)

/-- An operation first names its body, then its query. -/
lemma endpointOf_eq (table : InlineSchemas) (path : String) (item : PathItem) (method : String)
    (operation : Operation) :
    endpointOf document order table path item method operation =
      let body := bodyClaim order table path method operation
      let query := queryClaim document order body.2 path item method operation
      ({ method, path
         operationId := operation.operationId
         summary := operation.summary
         query := query.1
         body := body.1
         response := operation.responseSchema?.bind (Schema.component? order) }, query.2) := by
  unfold endpointOf bodyClaim queryClaim
  cases operation.requestSchema? with
  | none => cases querySchema? (document.queryParameters item operation) <;> rfl
  | some schema =>
    cases schema.component? order <;>
      cases querySchema? (document.queryParameters item operation) <;> rfl

variable {document order}

/-- An operation is added if and only if its identifier is new and its route is free. -/
lemma addOperation_eq_ok_iff {path : String} {item : PathItem} {routes routes' : Routes}
    {entry : String × Operation} :
    addOperation document order path item routes entry = .ok routes' ↔
      entry.2.operationId.filter routes.operationIds.contains = none ∧
      routes.tree.at? (Naming.routeKeys path) entry.1 = none ∧
      routes' =
        let added := endpointOf document order routes.inline path item entry.1 entry.2
        { tree := routes.tree.insert added.1 (Naming.routeKeys path)
          inline := added.2
          operationIds := entry.2.operationId.toList ++ routes.operationIds } := by
  obtain ⟨method, operation⟩ := entry
  simp only [addOperation]
  cases operation.operationId.filter routes.operationIds.contains with
  | some id => simp
  | none =>
    cases routes.tree.at? (Naming.routeKeys path) method with
    | some previous => simp
    | none => simp [eq_comm]

/-- An operation is not added because its identifier or its route is taken. -/
lemma addOperation_eq_error {path : String} {item : PathItem} {routes : Routes}
    {entry : String × Operation} {conflict : Conflict}
    (h : addOperation document order path item routes entry = .error conflict) :
    (∃ id, entry.2.operationId = some id ∧ id ∈ routes.operationIds ∧
      conflict = .operationId id) ∨
    ∃ previous, routes.tree.at? (Naming.routeKeys path) entry.1 = some previous ∧
      conflict = .route previous.path path (Naming.routeKeys path) entry.1 := by
  obtain ⟨method, operation⟩ := entry
  simp only [addOperation] at h
  cases hid : operation.operationId.filter routes.operationIds.contains with
  | some id =>
    rw [hid] at h
    obtain ⟨hsome, hmem⟩ := Option.filter_eq_some_iff.1 hid
    exact Or.inl ⟨id, hsome, List.contains_iff_mem.1 hmem, (Except.error.inj h).symm⟩
  | none =>
    rw [hid] at h
    cases hat : routes.tree.at? (Naming.routeKeys path) method with
    | some previous =>
      simp only [hat] at h
      exact Or.inr ⟨previous, rfl, (Except.error.inj h).symm⟩
    | none => simp [hat] at h

/-- Naming a body keeps the table apart from the order. -/
lemma apart_bodyClaim {table : InlineSchemas} (h : Apart order table) (path method : String)
    (operation : Operation) : Apart order (bodyClaim order table path method operation).2 := by
  unfold bodyClaim
  split
  · exact h
  · split
    · exact h
    · exact h.claim _ _

/-- Naming a query keeps the table apart from the order. -/
lemma apart_queryClaim {table : InlineSchemas} (h : Apart order table) (path : String)
    (item : PathItem) (method : String) (operation : Operation) :
    Apart order (queryClaim document order table path item method operation).2 := by
  unfold queryClaim
  split
  · exact h
  · exact h.claim _ _

/-- Adding an operation keeps the table apart from the order. -/
lemma apart_addOperation {path : String} {item : PathItem} {routes routes' : Routes}
    {entry : String × Operation} (h : Apart order routes.inline)
    (hadd : addOperation document order path item routes entry = .ok routes') :
    Apart order routes'.inline := by
  obtain ⟨-, -, rfl⟩ := addOperation_eq_ok_iff.1 hadd
  rw [endpointOf_eq]
  exact apart_queryClaim (apart_bodyClaim h _ _ _) _ _ _ _

/-- The claims for the operations of a description are apart from the named schemas. -/
lemma apart_ofDocument {routes : Routes} (h : ofDocument document order = .ok routes) :
    Apart order routes.inline := by
  rw [ofDocument, Except.map_eq_ok_iff] at h
  obtain ⟨built, hbuilt, rfl⟩ := h
  have hempty : Apart order ({} : Routes).inline := ⟨List.nodup_nil, by simp⟩
  refine Except.foldlM_induction (fun routes => Apart order routes.inline) ?_ hempty hbuilt
  intro routes entry routes' happart hpath
  exact Except.foldlM_induction (fun routes => Apart order routes.inline)
    (fun _ _ _ => apart_addOperation) happart hpath

end Routes

end TypedClient
