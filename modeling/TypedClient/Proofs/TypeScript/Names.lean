import TypedClient.Proofs.Blueprint.Termination
import TypedClient.Proofs.TypeScript.Declared
import TypedClient.Proofs.TypeScript.Distinct
import TypedClient.Proofs.TypeScript.Findings

/-!
# The names of a module

All declarations of a module bear different identifiers, none of which the module declares for
itself, and the lines of the module declare each of them once.  Wherever the module names a schema,
in a reference, at an input or at an answer, it is a schema that is declared, and the identifier is
that of its declaration and of no other (`NamesApart`).
-/

namespace TypedClient.TypeScript

/-- A text names, by what a function makes of it, one declaration of a list and no other. -/
def Designates (identifier : String → String) (declarations : List Declaration) (name : String) :
    Prop :=
  ∃ d ∈ declarations, d.name = name ∧
    ∀ other ∈ declarations, identifier other.name = identifier name → other = d

/-- The schemas of a blueprint are kept apart by the names that its module gives them. -/
structure NamesApart (blueprint : Blueprint) (ids : Identifiers) : Prop where
  /-- The identifier of a declaration is the first form of the identifier of its name that neither
  the module declares for itself nor a declaration before it bears. -/
  assigned : ∀ before d after, blueprint.declarations = before ++ d :: after →
    ∃ n, ids.typeName d.name = Naming.numbered (Naming.identifier d.name) n ∧
      ∀ m < n, Naming.numbered (Naming.identifier d.name) m ∈ reserved ∨
        ∃ b ∈ before, ids.typeName b.name = Naming.numbered (Naming.identifier d.name) m
  /-- It is an identifier. -/
  isIdentifier : ∀ d ∈ blueprint.declarations, Naming.IsIdentifier (ids.typeName d.name)
  /-- The module does not declare it for itself. -/
  not_reserved : ∀ d ∈ blueprint.declarations, ids.typeName d.name ∉ reserved
  /-- No two declarations have one identifier. -/
  typeNames : (blueprint.declarations.map fun d => ids.typeName d.name).Nodup
  /-- No two declarations have one constant. -/
  schemaNames : (blueprint.declarations.map fun d => ids.schemaName d.name).Nodup
  /-- The lines of the module declare the constants of the declarations, each once. -/
  constants : declaredNames constantKeyword (render blueprint) =
    blueprint.declarations.map fun d => ids.schemaName d.name
  /-- They declare the types of the named schemas, each once, and that of the configuration. -/
  types : declaredNames typeKeyword (render blueprint) =
    (blueprint.components.map fun d => ids.typeName d.name) ++ ["ClientConfig"]
  /-- The module is its template, filled with the identifiers. -/
  filled : render blueprint = Layout.render ((moduleRows blueprint).map (Row.step ids))
  /-- In a declaration, its own constant stands before those of its references. -/
  references : ∀ d ∈ blueprint.declarations, TypeScript.constants [.line (declarationParts d)] =
    d.name :: d.validator.references.map Prod.fst
  /-- At an endpoint stand the constants of its query and its body, then those of all its schemas,
  and the type of its answer. -/
  inputs : ∀ route method e, blueprint.tree.at? route method = some e → ∀ key,
    TypeScript.constants (endpointRows key e) = e.query.toList ++ e.body.toList ++ e.schemaNames ∧
      TypeScript.types (endpointRows key e) = e.response.toList
  /-- Every constant that stands in the module is that of one declaration. -/
  constant : ∀ name ∈ TypeScript.constants (moduleRows blueprint),
    Designates ids.schemaName blueprint.declarations name
  /-- Every type that stands in the module is that of one declaration of a named schema. -/
  type : ∀ name ∈ TypeScript.types (moduleRows blueprint),
    Designates ids.typeName blueprint.components name

variable {strict : Bool} {document : Document} {blueprint : Blueprint}

/-- A name that is declared designates its declaration, if the identifiers are different. -/
lemma designates_of_nodup {identifier : String → String} {declarations : List Declaration}
    (hnodup : (declarations.map fun d => identifier d.name).Nodup) {name : String}
    (h : ∃ d ∈ declarations, d.name = name) : Designates identifier declarations name := by
  obtain ⟨d, hd, rfl⟩ := h
  exact ⟨d, hd, rfl, fun other hother heq => List.inj_on_of_nodup_map hnodup hother hd heq⟩

/-- In the declaration of a schema, its own constant stands before those of its references. -/
lemma filterMap_constant?_declarationParts (d : Declaration) :
    (declarationParts d).filterMap Part.constant? =
      d.name :: d.validator.references.map Prod.fst := by
  rw [filterMap_declarationParts fun _ => rfl, filterMap_constant?_parts]
  rfl

/-- In the declaration of a schema stands no type. -/
lemma filterMap_type?_declarationParts (d : Declaration) :
    (declarationParts d).filterMap Part.type? = [] := by
  have hparts : ∀ p ∈ parts d.validator, p.type? = none := by
    refine forall_mem_parts (fun _ => rfl) (fun _ => rfl) (fun _ => rfl) (fun p hp => ?_) _
    cases p with
    | type name => cases hp
    | code text => rfl
    | comment text => rfl
    | constant name => rfl
  rw [filterMap_declarationParts fun _ => rfl, List.filterMap_eq_nil_iff.2 hparts]
  rfl

/-- Every constant that stands in a module is that of a declaration. -/
lemma exists_declaration_of_mem_constants (h : Blueprint.ofDocument strict document = .ok blueprint)
    {name : String} (hname : name ∈ constants (moduleRows blueprint)) :
    ∃ d ∈ blueprint.declarations, d.name = name := by
  have hdeclaration : ∀ d ∈ blueprint.declarations,
      name ∈ (declarationParts d).filterMap Part.constant? →
        ∃ d ∈ blueprint.declarations, d.name = name := by
    intro d hd hmem
    rw [filterMap_constant?_declarationParts] at hmem
    rcases List.mem_cons.1 hmem with rfl | hmem
    · exact ⟨d, hd, rfl⟩
    · obtain ⟨r, hr, rfl⟩ := List.mem_map.1 hmem
      obtain ⟨v, hv⟩ :=
        Entries.exists_get?_iff.2 (Blueprint.mem_keys_of_mem_references h hd r hr)
      obtain ⟨d', hd', hname', -⟩ := Blueprint.exists_declaration_of_get? hv
      exact ⟨d', hd', hname'⟩
  rw [constants, findings_moduleRows fun _ => rfl, List.mem_append, List.mem_append,
    List.mem_append, List.mem_flatMap, List.mem_flatMap, List.mem_flatMap, List.mem_flatMap]
    at hname
  obtain ⟨d, hd, hmem⟩ | ⟨d, hd, hmem⟩ | ⟨d, hd, hmem⟩ | ⟨x, hx, hmem⟩ := hname
  · exact hdeclaration d (List.mem_append_left _ hd) hmem
  · exact ⟨d, List.mem_append_left _ hd, (List.mem_singleton.1 hmem).symm⟩
  · exact hdeclaration d (List.mem_append_right _ hd) hmem
  · obtain ⟨route, hat⟩ := (Blueprint.mem_allEndpoints_iff h).1 hx
    rw [← constants, constants_endpointRows, List.mem_append, List.mem_append] at hmem
    refine Blueprint.exists_declaration_of_at? h hat ?_
    rw [Endpoint.schemaNames, List.mem_append, List.mem_append]
    obtain (hquery | hbody) | hschema := hmem
    · exact Or.inl (Or.inl hquery)
    · exact Or.inl (Or.inr hbody)
    · rwa [Endpoint.schemaNames, List.mem_append, List.mem_append] at hschema

/-- Every type that stands in a module is that of a named schema. -/
lemma exists_component_of_mem_types (h : Blueprint.ofDocument strict document = .ok blueprint)
    {name : String} (hname : name ∈ types (moduleRows blueprint)) :
    ∃ d ∈ blueprint.components, d.name = name := by
  obtain ⟨schemas, -, hschemas, -⟩ := Blueprint.ofDocument_eq_ok_iff.1 h
  obtain ⟨pairs, routes, hassembled⟩ := Blueprint.exists_assembled h hschemas
  rw [types, findings_moduleRows fun _ => rfl, List.mem_append, List.mem_append,
    List.mem_append, List.mem_flatMap, List.mem_flatMap, List.mem_flatMap, List.mem_flatMap]
    at hname
  obtain ⟨d, hd, hmem⟩ | ⟨d, hd, hmem⟩ | ⟨d, hd, hmem⟩ | ⟨x, hx, hmem⟩ := hname
  · rw [filterMap_type?_declarationParts] at hmem
    cases hmem
  · exact ⟨d, hd, (List.mem_singleton.1 hmem).symm⟩
  · rw [filterMap_type?_declarationParts] at hmem
    cases hmem
  · obtain ⟨route, hat⟩ := (Blueprint.mem_allEndpoints_iff h).1 hx
    rw [← types, types_endpointRows, Option.mem_toList] at hmem
    obtain ⟨s, -, -, hdeclared⟩ := hassembled.exists_declaredIn_of_at? hat
    exact hdeclared.answer name hmem

/-- The module of a blueprint keeps its schemas apart, however alike their names are. -/
theorem namesApart_ofDocument (h : Blueprint.ofDocument strict document = .ok blueprint) :
    NamesApart blueprint (.ofDeclarations blueprint.declarations) := by
  have hnodup := Blueprint.nodup_names_of_ofDocument h
  have htypes := Identifiers.nodup_typeNames hnodup
  have hschemas := Identifiers.nodup_schemaNames hnodup
  have hcomponents : (blueprint.components.map fun d =>
      (Identifiers.ofDeclarations blueprint.declarations).typeName d.name).Nodup := by
    rw [Blueprint.declarations, List.map_append] at htypes
    exact htypes.of_append_left
  constructor
  case assigned => exact fun _ _ _ hdeclarations => Identifiers.typeName_spec hnodup hdeclarations
  case isIdentifier => exact fun d _ => Identifiers.isIdentifier_typeName _ d.name
  case not_reserved => exact fun d hd => Identifiers.typeName_not_mem_reserved hnodup hd
  case typeNames => exact htypes
  case schemaNames => exact hschemas
  case constants => exact declaredNames_constants blueprint
  case types => exact declaredNames_types blueprint
  case filled => exact congrArg Layout.render (moduleSteps_eq blueprint)
  case references =>
    intro d _
    rw [TypeScript.constants, findings_line, filterMap_constant?_declarationParts]
    exact List.append_nil _
  case inputs => exact fun _ _ e _ key => ⟨constants_endpointRows key e, types_endpointRows key e⟩
  case constant =>
    exact fun name hname => designates_of_nodup hschemas (exists_declaration_of_mem_constants h hname)
  case type =>
    exact fun name hname => designates_of_nodup hcomponents (exists_component_of_mem_types h hname)

/-- Four schemas, of which three have names that are spelled alike as identifiers, and the fourth one
has a name that a module declares for itself. -/
def alikeDocument : Document where
  components := some {
    schemas := some [
      ("a_b2", .object {} [] [] none),
      ("a-b", .array {} (.reference {} "#/components/schemas/a.b")),
      ("a.b", .object {} [] [] none),
      ("z", .object {} [] [] none)] }
  paths := [("/a", {
    operations := [("post", {
      requestBody := some ⟨[(jsonMediaType, some (.reference {} "#/components/schemas/a-b"))]⟩ })] })]

/-- The blueprint of the four schemas. -/
def alikeBlueprint : Blueprint where
  components := [
    ⟨"a_b2", .object [] .strip, false⟩, ⟨"a.b", .object [] .strip, false⟩,
    ⟨"a-b", .array (.reference "a.b" false), false⟩, ⟨"z", .object [] .strip, false⟩]
  inline := []
  tree := .node [] [("a", .node [("post", { method := "post", path := "/a", body := some "a-b" })] [])]

/-- The description of the four schemas has its blueprint. -/
lemma ofDocument_alikeDocument :
    Blueprint.ofDocument false alikeDocument = .ok alikeBlueprint := by
  cbv

/-- The module of the four schemas keeps them apart. -/
theorem alike_namesApart :
    Blueprint.ofDocument false alikeDocument = .ok alikeBlueprint ∧
      NamesApart alikeBlueprint (.ofDeclarations alikeBlueprint.declarations) ∧
      (alikeBlueprint.declarations.map fun d =>
        (Identifiers.ofDeclarations alikeBlueprint.declarations).typeName d.name) =
          ["a_b2", "a_b", "a_b3", "z2"] :=
  ⟨ofDocument_alikeDocument, namesApart_ofDocument ofDocument_alikeDocument, by decide +kernel⟩

end TypedClient.TypeScript
