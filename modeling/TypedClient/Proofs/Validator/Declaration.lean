import TypedClient.Proofs.Outcome
import TypedClient.Proofs.Validator.References

/-!
# The declarations of named schemas

Whether declarations come about depends on the notices alone: a lenient compilation never fails, and
a strict one fails if some notice is a degradation (`Notice.guard_eq_ok_iff`).  The declarations
themselves are those of `compiled` and `compiledInline`, and they stand in the places of their names
(`map_name_compiled`).
-/

namespace TypedClient

namespace Notice

/-- No notice of a list is a degradation. -/
def NoneDegraded (notices : List Notice) : Prop := ∀ d, Notice.degraded d ∉ notices

/-- A list without degradations has no first one. -/
lemma firstDegradation_eq_none_iff {notices : List Notice} :
    firstDegradation notices = none ↔ NoneDegraded notices := by
  rw [firstDegradation, List.findSome?_eq_none_iff]
  constructor
  · intro h d hd
    simpa [degradation?] using h _ hd
  · intro h notice hnotice
    cases notice with
    | degraded d => exact absurd hnotice (h d)
    | forward name => rfl

/-- A value gets through unless a degradation stops it in strict mode. -/
lemma guard_eq_ok_iff {α : Type} {strict : Bool} {notices : List Notice} {value result : α} :
    guard strict notices value = .ok result ↔
      value = result ∧ (strict = true → NoneDegraded notices) := by
  rw [← firstDegradation_eq_none_iff]
  unfold guard
  cases strict with
  | false => simp
  | true => cases firstDegradation notices <;> simp

/-- The names of forward references are those that the notices tell. -/
lemma mem_forwards_iff {notices : List Notice} {name : String} :
    name ∈ forwards notices ↔ Notice.forward name ∈ notices := by
  rw [forwards, List.mem_filterMap]
  constructor
  · rintro ⟨notice, hnotice, hname⟩
    cases notice with
    | degraded d => simp [forward?] at hname
    | forward other =>
      obtain rfl : other = name := by simpa [forward?] using hname
      exact hnotice
  · exact fun h => ⟨_, h, rfl⟩

end Notice

namespace Declaration

/-- The declarations of the schemas of an order, with all that they lose. -/
def compiled (schemas : Entries Schema) (order : SchemaOrder) : List Declaration :=
  (inOrder schemas order).map fun e =>
    ⟨e.1, e.2.validator order e.1, (Notice.forwards (notices schemas order)).contains e.1⟩

/-- The declarations of the schemas of single operations, with all that they lose. -/
def compiledInline (schemas : Entries Schema) (order : SchemaOrder) : List Declaration :=
  schemas.map fun e => ⟨e.1, e.2.validator order e.1, false⟩

/-- What is to be noted about the schemas of single operations. -/
def inlineNotices (schemas : Entries Schema) (order : SchemaOrder) : List Notice :=
  schemas.flatMap fun e => e.2.notices order e.1

variable {strict : Bool} {schemas : Entries Schema} {order : SchemaOrder}
  {declarations : List Declaration}

/-- When the declarations of named schemas come about, and what they are. -/
lemma ofSchemas_eq_ok_iff :
    ofSchemas strict schemas order = .ok declarations ↔
      compiled schemas order = declarations ∧
        (strict = true → Notice.NoneDegraded (notices schemas order)) :=
  Notice.guard_eq_ok_iff

/-- When the declarations of the schemas of single operations come about, and what they are. -/
lemma ofInline_eq_ok_iff :
    ofInline strict schemas order = .ok declarations ↔
      compiledInline schemas order = declarations ∧
        (strict = true → Notice.NoneDegraded (inlineNotices schemas order)) :=
  Notice.guard_eq_ok_iff

/-- The schemas of an order are those whose names it lists. -/
lemma mem_inOrder_iff {e : String × Schema} :
    e ∈ inOrder schemas order ↔ e.1 ∈ order.names ∧ schemas.get? e.1 = some e.2 := by
  rw [inOrder, List.mem_filterMap]
  constructor
  · rintro ⟨name, hname, h⟩
    obtain ⟨s, hs, rfl⟩ := Option.map_eq_some_iff.1 h
    exact ⟨hname, hs⟩
  · rintro ⟨hname, hs⟩
    exact ⟨e.1, hname, by rw [hs]; rfl⟩

/-- If every name of an order has a schema, the schemas stand in the places of their names. -/
lemma map_fst_inOrder (h : ∀ name ∈ order.names, name ∈ schemas.keys) :
    (inOrder schemas order).map Prod.fst = order.names := by
  rw [inOrder, List.map_filterMap]
  have hsome : ∀ name ∈ order.names,
      ((schemas.get? name).map fun s => (name, s)).map Prod.fst = some name := by
    intro name hname
    have hin := (Entries.contains_iff_mem_keys schemas name).2 (h name hname)
    obtain ⟨s, hs⟩ := Option.isSome_iff_exists.1 hin
    rw [hs]
    rfl
  rw [List.filterMap_congr hsome, List.filterMap_some]

/-- The declarations stand in the places of their names. -/
lemma map_name_compiled (h : ∀ name ∈ order.names, name ∈ schemas.keys) :
    (compiled schemas order).map Declaration.name = order.names := by
  rw [compiled, List.map_map, ← map_fst_inOrder h]
  rfl

/-- The declarations of the schemas of single operations have their names. -/
lemma map_name_compiledInline :
    (compiledInline schemas order).map Declaration.name = schemas.keys := by
  rw [compiledInline, List.map_map]
  rfl

/-- A declaration is that of a schema of the order. -/
lemma mem_compiled_iff {d : Declaration} :
    d ∈ compiled schemas order ↔
      ∃ s, d.name ∈ order.names ∧ schemas.get? d.name = some s ∧
        d = ⟨d.name, s.validator order d.name,
          (Notice.forwards (notices schemas order)).contains d.name⟩ := by
  rw [compiled, List.mem_map]
  constructor
  · rintro ⟨e, he, rfl⟩
    obtain ⟨hname, hs⟩ := mem_inOrder_iff.1 he
    exact ⟨e.2, hname, hs, rfl⟩
  · rintro ⟨s, hname, hs, hd⟩
    exact ⟨(d.name, s), mem_inOrder_iff.2 ⟨hname, hs⟩, hd.symm⟩

/-- A name is among the forward references of the named schemas if and only if a declaration has a
deferred reference to it. -/
lemma mem_forwards_notices_iff {name : String} :
    name ∈ Notice.forwards (notices schemas order) ↔
      ∃ d ∈ compiled schemas order, (name, true) ∈ d.validator.references := by
  simp only [Notice.mem_forwards_iff, notices, List.mem_flatMap, Schema.forward_mem_notices_iff]
  constructor
  · rintro ⟨e, he, href⟩
    exact ⟨_, List.mem_map.2 ⟨e, he, rfl⟩, href⟩
  · rintro ⟨d, hd, href⟩
    obtain ⟨e, he, rfl⟩ := List.mem_map.1 hd
    exact ⟨e, he, href⟩

/-- Every named schema of an order is declared. -/
lemma exists_mem_compiled {name : String} {s : Schema} (hname : name ∈ order.names)
    (hs : schemas.get? name = some s) :
    ∃ d ∈ compiled schemas order, d.name = name ∧ d.validator = s.validator order name :=
  ⟨_, List.mem_map.2 ⟨(name, s), mem_inOrder_iff.2 ⟨hname, hs⟩, rfl⟩, rfl, rfl⟩

end Declaration

/-- In the registry of declarations with different names, each declaration is found under its
name. -/
lemma Registry.get?_ofDeclarations {declarations : List Declaration}
    (hnodup : (declarations.map Declaration.name).Nodup) {d : Declaration}
    (hd : d ∈ declarations) : (ofDeclarations declarations).get? d.name = some d.validator := by
  have hkeys : (Entries.keys (declarations.map fun d => (d.name, d.validator))).Nodup := by
    rw [Entries.keys, List.map_map]
    exact hnodup
  rw [ofDeclarations, Entries.ofList_eq_self hkeys]
  exact Entries.get?_of_mem hkeys (List.mem_map.2 ⟨d, hd, rfl⟩)

end TypedClient
