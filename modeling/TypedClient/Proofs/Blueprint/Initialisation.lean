import TypedClient.Proofs.Blueprint.Basic
import TypedClient.Proofs.TypeScript.Constants

/-!
# Nothing is read before it is declared

In the list of all declarations of a blueprint, a reference that is not deferred leads to an earlier
component, and a deferred one stands in a component and leads to the same or a later one
(`Blueprint.ReferencesInOrder`).  As the written declarations read the constants of the first kind
only, none of them reads a constant that is not yet declared (`Blueprint.ReadsInOrder`).

The three facts that meet here are that components stand in the places of their names
(`place?_eq_some_iff_getElem?_compiled`), that references compare these places
(`Schema.comesFromPointer_of_mem_validator`), and that the schemas of single operations have no
place (`Routes.apart_ofDocument`).
-/

namespace TypedClient

open Relation

/-- No schema leads back to itself. -/
def Acyclic (schemas : Entries Schema) : Prop := ∀ name, ¬TransGen (DependsOn schemas) name name

namespace Declaration

variable {schemas : Entries Schema} {order : SchemaOrder}

/-- The component of a name stands in the place of the name. -/
lemma place?_eq_some_iff_getElem?_compiled (hnodup : order.names.Nodup)
    (hkeys : ∀ name ∈ order.names, name ∈ schemas.keys) {name : String} {i : Nat} :
    order.place? name = some i ↔ ∃ d, (compiled schemas order)[i]? = some d ∧ d.name = name := by
  rw [SchemaOrder.place?_eq_some_iff hnodup, ← map_name_compiled hkeys, List.getElem?_map,
    Option.map_eq_some_iff]

/-- Where a reference of a component leads: to a name with a place, which is not before that of the
component if and only if the reference is deferred. -/
lemma exists_place_of_mem_references (hnodup : order.names.Nodup)
    (hkeys : ∀ name ∈ order.names, name ∈ schemas.keys) {d : Declaration} {i : Nat}
    (hd : (compiled schemas order)[i]? = some d) {name : String} {deferred : Bool}
    (href : (name, deferred) ∈ d.validator.references) :
    ∃ j, order.place? name = some j ∧ (deferred = true ↔ i ≤ j) := by
  obtain ⟨s, -, -, hvalidator⟩ := mem_compiled_iff.1 (List.mem_of_getElem? hd)
  rw [hvalidator] at href
  obtain ⟨pointer, -, htarget, hdeferred⟩ := Schema.comesFromPointer_of_mem_validator s _ href
  dsimp only at htarget hdeferred
  have hi : order.place? d.name = some i :=
    (place?_eq_some_iff_getElem?_compiled hnodup hkeys).2 ⟨d, hd, rfl⟩
  obtain ⟨j, hj⟩ := SchemaOrder.mem_names_iff_exists_place?.1 (Schema.mem_names_of_target? htarget)
  refine ⟨j, hj, ?_⟩
  rw [hdeferred, SchemaOrder.isForward_iff, hi, hj]
  simp

/-- Where a reference of the schema of a single operation leads: to a name of the order, and it is
not deferred. -/
lemma mem_names_of_mem_references_inline {table : InlineSchemas}
    (happart : InlineSchemas.Apart order table) {d : Declaration}
    (hd : d ∈ compiledInline table order) {name : String} {deferred : Bool}
    (href : (name, deferred) ∈ d.validator.references) :
    name ∈ order.names ∧ deferred = false := by
  obtain ⟨e, he, rfl⟩ := List.mem_map.1 hd
  obtain ⟨pointer, -, htarget, hdeferred⟩ := Schema.comesFromPointer_of_mem_validator e.2 _ href
  refine ⟨Schema.mem_names_of_target? htarget, Bool.eq_false_iff.2 fun hforward => ?_⟩
  rw [hforward] at hdeferred
  replace hforward := hdeferred.symm
  obtain ⟨i, -, hi, -⟩ := SchemaOrder.isForward_iff.1 hforward
  exact happart.not_mem e.1 (List.mem_map.2 ⟨e, he, rfl⟩)
    (SchemaOrder.mem_names_iff_exists_place?.2 ⟨i, hi⟩)

/-- A deferred reference of a component closes a circle. -/
lemma transGen_of_deferred_mem_references {d : Declaration}
    (hd : d ∈ compiled schemas (.ofSchemas schemas)) {name : String}
    (href : (name, true) ∈ d.validator.references) :
    TransGen (DependsOn schemas) name name := by
  obtain ⟨s, -, hs, hvalidator⟩ := mem_compiled_iff.1 hd
  rw [hvalidator] at href
  obtain ⟨pointer, hpointer, htarget, hforward⟩ :=
    Schema.comesFromPointer_of_mem_validator s _ href
  have hdepends : DependsOn schemas d.name name :=
    ⟨⟨s, hs, Schema.mem_dependencies hpointer htarget⟩,
      (SchemaOrder.mem_names_ofSchemas schemas).1 (Schema.mem_names_of_target? htarget)⟩
  have hback := SchemaOrder.leadsTo_of_isForward schemas hdepends hforward.symm
  exact TransGen.tail' hback hdepends

end Declaration

namespace Blueprint

/-- The references among the declarations are consistent with their order. -/
structure ReferencesInOrder (blueprint : Blueprint) : Prop where
  /-- A name is that of one declaration only. -/
  distinct : (blueprint.declarations.map Declaration.name).Nodup
  /-- A reference that is not deferred leads to an earlier component. -/
  direct : ∀ (i : Nat) d name, blueprint.declarations[i]? = some d →
    (name, false) ∈ d.validator.references →
      ∃ j e, j < i ∧ blueprint.components[j]? = some e ∧ e.name = name
  /-- A deferred reference stands in a component, and leads to the same component or a later one. -/
  deferred : ∀ (i : Nat) d name, blueprint.declarations[i]? = some d →
    (name, true) ∈ d.validator.references →
      blueprint.components[i]? = some d ∧
        ∃ j e, i ≤ j ∧ blueprint.components[j]? = some e ∧ e.name = name
  /-- A component is deferred if and only if a deferred reference leads to it. -/
  flag : ∀ d ∈ blueprint.components,
    (d.deferred = true ↔
      ∃ e ∈ blueprint.declarations, (d.name, true) ∈ e.validator.references)
  /-- The declaration of the schema of a single operation is not deferred. -/
  inline : ∀ d ∈ blueprint.inline, d.deferred = false

/-- No reference and no declaration is deferred. -/
def NothingDeferred (blueprint : Blueprint) : Prop :=
  ∀ d ∈ blueprint.declarations,
    d.deferred = false ∧ ∀ name, (name, true) ∉ d.validator.references

/-- The text of each declaration, cut into its pieces, reads the constants of earlier declarations
only. -/
def ReadsInOrder (blueprint : Blueprint) : Prop :=
  let ids := TypeScript.Identifiers.ofDeclarations blueprint.declarations
  ∀ (i : Nat) d, blueprint.declarations[i]? = some d →
    (TypeScript.declarationPieces ids d).flatMap (TypeScript.Piece.text ids) =
        (TypeScript.declarationText ids d).toList ∧
      ∀ name, TypeScript.Piece.read name ∈ TypeScript.declarationPieces ids d →
        ∃ j e, j < i ∧ blueprint.declarations[j]? = some e ∧ e.name = name

variable {strict : Bool} {document : Document} {blueprint : Blueprint}

/-- The references of a blueprint are consistent with the order of its declarations. -/
lemma referencesInOrder_of_ofDocument (h : ofDocument strict document = .ok blueprint) :
    blueprint.ReferencesInOrder := by
  have hdistinct := nodup_names_of_ofDocument h
  obtain ⟨schemas, routes, -, hroutes, -, rfl⟩ := ofDocument_eq_ok_iff.1 h
  have hnodup := SchemaOrder.nodup_names_ofSchemas schemas
  have hkeys : ∀ name ∈ (SchemaOrder.ofSchemas schemas).names, name ∈ schemas.keys :=
    fun name => (SchemaOrder.mem_names_ofSchemas schemas).1
  have happart := Routes.apart_ofDocument hroutes
  have hinline : ∀ {d : Declaration} {name : String} {deferred : Bool},
      d ∈ Declaration.compiledInline routes.inline (.ofSchemas schemas) →
        (name, deferred) ∈ d.validator.references →
          name ∈ (SchemaOrder.ofSchemas schemas).names ∧ deferred = false :=
    fun hd href => Declaration.mem_names_of_mem_references_inline happart hd href
  constructor
  case distinct => exact hdistinct
  case direct =>
    intro i d name hd href
    rw [declarations, List.getElem?_append] at hd
    split at hd
    · obtain ⟨j, hj, hdeferred⟩ :=
        Declaration.exists_place_of_mem_references hnodup hkeys hd href
      obtain ⟨e, he, hname⟩ :=
        (Declaration.place?_eq_some_iff_getElem?_compiled hnodup hkeys).1 hj
      have hlt : j < i := by simpa using hdeferred
      exact ⟨j, e, hlt, he, hname⟩
    · next hlength =>
      obtain ⟨hmem, -⟩ := hinline (List.mem_of_getElem? hd) href
      obtain ⟨j, hj⟩ := SchemaOrder.mem_names_iff_exists_place?.1 hmem
      obtain ⟨e, he, hname⟩ :=
        (Declaration.place?_eq_some_iff_getElem?_compiled hnodup hkeys).1 hj
      obtain ⟨hlt, -⟩ := List.getElem?_eq_some_iff.1 he
      exact ⟨j, e, Nat.lt_of_lt_of_le hlt (Nat.le_of_not_lt hlength), he, hname⟩
  case deferred =>
    intro i d name hd href
    rw [declarations, List.getElem?_append] at hd
    split at hd
    · obtain ⟨j, hj, hdeferred⟩ :=
        Declaration.exists_place_of_mem_references hnodup hkeys hd href
      obtain ⟨e, he, hname⟩ :=
        (Declaration.place?_eq_some_iff_getElem?_compiled hnodup hkeys).1 hj
      exact ⟨hd, j, e, hdeferred.1 rfl, he, hname⟩
    · obtain ⟨-, hfalse⟩ := hinline (List.mem_of_getElem? hd) href
      cases hfalse
  case flag =>
    intro d hd
    obtain ⟨s, -, -, hd'⟩ := Declaration.mem_compiled_iff.1 hd
    have hflag : d.deferred = true ↔ d.name ∈ Notice.forwards
        (Declaration.notices schemas (.ofSchemas schemas)) := by
      rw [hd']
      exact List.contains_iff_mem
    rw [hflag, Declaration.mem_forwards_notices_iff]
    constructor
    · rintro ⟨e, he, href⟩
      exact ⟨e, List.mem_append_left _ he, href⟩
    · rintro ⟨e, he, href⟩
      rcases List.mem_append.1 he with he | he
      · exact ⟨e, he, href⟩
      · obtain ⟨-, hfalse⟩ := hinline he href
        cases hfalse
  case inline =>
    intro d hd
    obtain ⟨e, -, rfl⟩ := List.mem_map.1 hd
    rfl

/-- Where no schema leads back to itself, nothing is deferred. -/
lemma nothingDeferred_of_acyclic (h : ofDocument strict document = .ok blueprint)
    {schemas : Entries Schema} (hschemas : document.schemas? = some schemas)
    (hacyclic : Acyclic schemas) : blueprint.NothingDeferred := by
  have horder := referencesInOrder_of_ofDocument h
  obtain ⟨schemas', routes, hschemas', -, -, hblueprint⟩ := ofDocument_eq_ok_iff.1 h
  obtain rfl : schemas = schemas' := Option.some_inj.1 (hschemas.symm.trans hschemas')
  have hnone : ∀ d ∈ blueprint.declarations, ∀ name, (name, true) ∉ d.validator.references := by
    intro d hd name href
    obtain ⟨i, hi⟩ := List.mem_iff_getElem?.1 hd
    have hcomponent := List.mem_of_getElem? (horder.deferred i d name hi href).1
    rw [hblueprint] at hcomponent
    exact hacyclic name (Declaration.transGen_of_deferred_mem_references hcomponent href)
  intro d hd
  refine ⟨?_, hnone d hd⟩
  rcases List.mem_append.1 hd with hcomponent | hinline
  · refine Bool.eq_false_iff.2 fun hflag => ?_
    obtain ⟨e, he, href⟩ := (horder.flag d hcomponent).1 hflag
    exact hnone e he d.name href
  · exact horder.inline d hinline

/-- Where references are in order, so is what the written declarations read. -/
lemma ReferencesInOrder.reads (h : blueprint.ReferencesInOrder) : blueprint.ReadsInOrder := by
  intro i d hd
  refine ⟨TypeScript.flatMap_text_declarationPieces (TypeScript.noLineEnds_ofDeclarations _) d, ?_⟩
  intro name hread
  obtain ⟨-, href⟩ := TypeScript.read_mem_declarationPieces_iff.1 hread
  obtain ⟨j, e, hlt, he, hname⟩ := h.direct i d name hd href
  obtain ⟨hlength, -⟩ := List.getElem?_eq_some_iff.1 he
  exact ⟨j, e, hlt, by rw [declarations, List.getElem?_append_left hlength, he], hname⟩

/-- In every blueprint the references are in order, so that no declaration reads a constant before
it is declared, and without circles among the schemas nothing is deferred. -/
theorem ofDocument_declares_before_use (h : ofDocument strict document = .ok blueprint) :
    blueprint.ReferencesInOrder ∧
      (∀ schemas, document.schemas? = some schemas → Acyclic schemas →
        blueprint.NothingDeferred) ∧
      blueprint.ReadsInOrder :=
  ⟨referencesInOrder_of_ofDocument h, fun _ => nothingDeferred_of_acyclic h,
    (referencesInOrder_of_ofDocument h).reads⟩

/-- Two schemas that refer to each other, one of them also to itself, and an operation that takes a
list of them: the order cuts the circle, and nothing is read too early. -/
theorem circle_declares_before_use :
    ofDocument false circleDocument = .ok circleBlueprint ∧
      circleBlueprint.ReferencesInOrder ∧
      (∀ schemas, circleDocument.schemas? = some schemas → Acyclic schemas →
        circleBlueprint.NothingDeferred) ∧
      circleBlueprint.ReadsInOrder :=
  ⟨ofDocument_circleDocument, ofDocument_declares_before_use ofDocument_circleDocument⟩

end Blueprint

end TypedClient
