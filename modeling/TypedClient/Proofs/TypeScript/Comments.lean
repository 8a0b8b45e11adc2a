import TypedClient.Proofs.Document.Read
import TypedClient.Proofs.Layout
import TypedClient.Proofs.TypeScript.Findings

/-!
# Comments

The comments of a module hold texts of the description: the comment behind a field its description,
and the comment before an endpoint its path and its summary.  Descriptions and summaries are brought
on one line, so the comments behind fields always are on one line.  A path is written as it is:
the comment before an endpoint is on one line if and only if the path is
(`onOneLine_endpointComment_iff`).  So every comment of a module ends with its line exactly if no
path with an operation has a line terminator (`comments_onOneLine`), and the rest of a path that has
one is code of the module (`broken_path_leaves_comment`).
-/

namespace TypedClient.TypeScript

open Text (OnOneLine onOneLine_append)

/-! ## Single comments -/

/-- A comment behind a field is on one line. -/
lemma onOneLine_of_mem_parts {v : Validator} {text : List Char} (h : Part.comment text ∈ parts v) :
    OnOneLine text := by
  refine forall_mem_parts (P := fun p => ∀ text, p = .comment text → OnOneLine text) ?_ ?_ ?_ ?_ v
    _ h text rfl
  · rintro _ _ ⟨⟩
  · rintro _ _ ⟨⟩
  · rintro text _ ⟨⟩
    exact onOneLine_append.2 ⟨by decide, Text.onOneLine_join_wordsBetween text.toList⟩
  · intro p hp moved hmoved
    cases p with
    | comment text =>
      obtain rfl := Part.comment.inj hmoved
      have htext : OnOneLine text := hp text rfl
      rwa [deepen_of_not_mem fun hmem => absurd (htext _ hmem) (by decide)]
    | code text => cases hmoved
    | constant name => cases hmoved
    | type name => cases hmoved

/-- The comment before an endpoint is on one line if and only if its path is, whatever its summary
is. -/
lemma onOneLine_endpointComment_iff {e : Endpoint} (hmethod : e.method ∈ httpMethods) :
    OnOneLine (endpointComment e).toList ↔ OnOneLine e.path.toList := by
  have hupper : ∀ method ∈ httpMethods, OnOneLine (Text.upper method).toList := by decide
  have hlead : OnOneLine "// ".toList := by decide
  have hspace : OnOneLine " ".toList := by decide
  have hcall : OnOneLine ("// " ++ e.httpMethod ++ " " ++ e.path).toList ↔
      OnOneLine e.path.toList := by
    simp only [String.toList_append, onOneLine_append, hlead, hspace, Endpoint.httpMethod,
      hupper _ hmethod, true_and]
  unfold endpointComment
  cases e.summary with
  | none => exact hcall
  | some summary =>
    have hsummary : OnOneLine (": " ++ String.ofList (singleLine summary)).toList := by
      have hcolon : OnOneLine ": ".toList := by decide
      have htext : OnOneLine (String.ofList (singleLine summary)).toList := by
        rw [String.toList_ofList]
        exact Text.onOneLine_join_wordsBetween summary.toList
      rw [String.toList_append]
      exact onOneLine_append.2 ⟨hcolon, htext⟩
    dsimp only
    rw [String.append_assoc, String.toList_append, onOneLine_append, hcall]
    exact and_iff_left hsummary

/-! ## The comments of a module -/

/-- A comment in a declaration is one in its expression. -/
lemma mem_parts_of_mem_declarationParts {d : Declaration} {text : List Char}
    (h : text ∈ (declarationParts d).filterMap Part.comment?) :
    Part.comment text ∈ parts d.validator := by
  rw [filterMap_declarationParts (fun _ => rfl), List.mem_append] at h
  obtain ⟨p, hp, htext⟩ := List.mem_filterMap.1 (h.resolve_left List.not_mem_nil)
  cases p with
  | comment found =>
    obtain rfl := Option.some_inj.1 htext
    exact hp
  | code text => cases htext
  | constant name => cases htext
  | type name => cases htext

/-- The comments of a module are those in its declarations and those before its endpoints. -/
lemma mem_comments_moduleRows {blueprint : Blueprint} {text : List Char}
    (h : text ∈ comments (moduleRows blueprint)) :
    (∃ d ∈ blueprint.declarations, Part.comment text ∈ parts d.validator) ∨
      ∃ x ∈ blueprint.tree.allEndpoints, text = (endpointComment x.2).toList := by
  rw [comments, findings_moduleRows fun _ => rfl, List.mem_append, List.mem_append,
    List.mem_append, List.mem_flatMap, List.mem_flatMap, List.mem_flatMap, List.mem_flatMap] at h
  obtain ⟨d, hd, h⟩ | ⟨d, hd, h⟩ | ⟨d, hd, h⟩ | ⟨x, hx, h⟩ := h
  · exact Or.inl ⟨d, List.mem_append_left _ hd, mem_parts_of_mem_declarationParts h⟩
  · cases h
  · exact Or.inl ⟨d, List.mem_append_right _ hd, mem_parts_of_mem_declarationParts h⟩
  · rw [← comments, comments_endpointRows, List.mem_singleton] at h
    exact Or.inr ⟨x, hx, h⟩

/-- The comment before an endpoint is one of the comments of the module. -/
lemma endpointComment_mem_comments {blueprint : Blueprint} {x : String × Endpoint}
    (hx : x ∈ blueprint.tree.allEndpoints) :
    (endpointComment x.2).toList ∈ comments (moduleRows blueprint) := by
  rw [comments, findings_moduleRows fun _ => rfl]
  refine List.mem_append_right _ (List.mem_append_right _ (List.mem_append_right _ ?_))
  refine List.mem_flatMap.2 ⟨x, hx, ?_⟩
  rw [← comments, comments_endpointRows]
  exact List.mem_singleton_self _

variable {strict : Bool} {text : String} {document : Document} {blueprint : Blueprint}

/-- The comments of the module of a description that has been read: those in declarations are on one
line, those before endpoints exactly if the path of the endpoint is, and all of them exactly if all
paths of operations are. -/
theorem comments_onOneLine (hread : Document.read text = .ok document)
    (h : Blueprint.ofDocument strict document = .ok blueprint) :
    render blueprint = Layout.render ((moduleRows blueprint).map
        (Row.step (.ofDeclarations blueprint.declarations))) ∧
      (∀ d ∈ blueprint.declarations, ∀ c ∈ comments [.line (declarationParts d)], OnOneLine c) ∧
      (∀ route method e, blueprint.tree.at? route method = some e →
        (endpointComment e).toList ∈ comments (moduleRows blueprint) ∧
          (OnOneLine (endpointComment e).toList ↔ OnOneLine e.path.toList)) ∧
      ((∀ c ∈ comments (moduleRows blueprint), OnOneLine c) ↔
        ∀ s ∈ document.sites, OnOneLine s.path.toList) := by
  obtain ⟨schemas, -, hschemas, -⟩ := Blueprint.ofDocument_eq_ok_iff.1 h
  obtain ⟨pairs, routes, hassembled⟩ := Blueprint.exists_assembled h hschemas
  -- Every endpoint is that of an operation, so its method is one of HTTP.
  have hsite : ∀ {route method e}, blueprint.tree.at? route method = some e →
      ∃ s ∈ document.sites, e.path = s.path ∧ e.method ∈ httpMethods := by
    intro route method e hat
    obtain ⟨s, hs, -, hdeclared⟩ := hassembled.exists_declaredIn_of_at? hat
    refine ⟨s, hs, hdeclared.isEndpoint.path_eq, ?_⟩
    rw [hdeclared.isEndpoint.method_eq]
    exact Document.method_mem_of_read hread hs
  have hcomment : ∀ route method e, blueprint.tree.at? route method = some e →
      (endpointComment e).toList ∈ comments (moduleRows blueprint) ∧
        (OnOneLine (endpointComment e).toList ↔ OnOneLine e.path.toList) := by
    intro route method e hat
    obtain ⟨-, -, -, hmethod⟩ := hsite hat
    exact ⟨endpointComment_mem_comments (RouteTree.mem_allEndpoints_of_at? hat),
      onOneLine_endpointComment_iff hmethod⟩
  refine ⟨congrArg Layout.render (moduleSteps_eq blueprint), ?_, hcomment, ?_, ?_⟩
  · intro d _ c hc
    rw [comments, findings_line, List.mem_append] at hc
    exact onOneLine_of_mem_parts
      (mem_parts_of_mem_declarationParts (hc.resolve_right List.not_mem_nil))
  · intro hall s hs
    rw [← hassembled.sites_eq] at hs
    obtain ⟨⟨_, e⟩, hp, rfl⟩ := List.mem_map.1 hs
    obtain ⟨hmem, hiff⟩ := hcomment _ _ _ (hassembled.at?_of_mem hp)
    rw [← (hassembled.built.isEndpoint _ hp).path_eq]
    exact hiff.1 (hall _ hmem)
  · intro hpaths c hc
    rcases mem_comments_moduleRows hc with ⟨d, -, hc⟩ | ⟨⟨method, e⟩, hx, rfl⟩
    · exact onOneLine_of_mem_parts hc
    · obtain ⟨route, hat⟩ := (Blueprint.mem_allEndpoints_iff h).1 hx
      obtain ⟨s, hs, hpath, hmethod⟩ := hsite hat
      rw [onOneLine_endpointComment_iff hmethod, hpath]
      exact hpaths s hs

/-- The text of a description with one operation, whose path has a line feed. -/
def brokenPathText : String :=
  "\x7b\"components\": \x7b\"schemas\": \x7b\x7d\x7d, " ++
    "\"paths\": \x7b\"/a\\nalert(1);//\": \x7b\"get\": \x7b\x7d\x7d\x7d\x7d"

/-- The events of the text. -/
def brokenPathEvents : List (Yaml.Event String) :=
  let key := fun text => Yaml.Event.scalar {} text false
  [.mappingStart {},
    key "components", .mappingStart {}, key "schemas", .mappingStart {}, .mappingEnd, .mappingEnd,
    key "paths", .mappingStart {},
      key "/a\nalert(1);//", .mappingStart {}, key "get", .mappingStart {}, .mappingEnd,
    .mappingEnd, .mappingEnd, .mappingEnd]

/-- The value of the events. -/
def brokenPathValue : Yaml.Value :=
  .mapping [
    (.string "components", .mapping [(.string "schemas", .mapping [])]),
    (.string "paths", .mapping [
      (.string "/a\nalert(1);//", .mapping [(.string "get", .mapping [])])])]

/-- The description that the text spells. -/
def brokenPathDocument : Document where
  components := some { schemas := some [] }
  paths := [("/a\nalert(1);//", { operations := [("get", {})] })]

/-- The text spells the description. -/
lemma read_brokenPathText : Document.read brokenPathText = .ok brokenPathDocument := by
  have hevents : (Yaml.tokens? brokenPathText.toList).bind Yaml.Event.ofTokens? =
      some brokenPathEvents := by
    -- The literals are taken apart by a lemma, which is much faster than decoding them.
    delta brokenPathText
    simp only [String.toList_append]
    repeat rw [String.toList_ofList]
    decide +kernel
  have hvalue : Yaml.Value.ofEvents? brokenPathEvents = some brokenPathValue := by cbv
  exact Document.read_eq_ok_of_steps hevents hvalue rfl

/-- The endpoint of the operation. -/
def brokenPathEndpoint : Endpoint where
  method := "get"
  path := "/a\nalert(1);//"

/-- The blueprint of the description. -/
def brokenPathBlueprint : Blueprint where
  components := []
  inline := []
  tree := .node [] [("a\nalert(1);", .node [("get", brokenPathEndpoint)] [])]

/-- The description has its blueprint. -/
lemma ofDocument_brokenPathDocument :
    Blueprint.ofDocument false brokenPathDocument = .ok brokenPathBlueprint := by
  cbv

/-- The comment before the endpoint is one of the comments of the module, and not on one line. -/
theorem brokenPath_comment :
    Document.read brokenPathText = .ok brokenPathDocument ∧
      Blueprint.ofDocument false brokenPathDocument = .ok brokenPathBlueprint ∧
      (endpointComment brokenPathEndpoint).toList ∈ comments (moduleRows brokenPathBlueprint) ∧
      ¬OnOneLine (endpointComment brokenPathEndpoint).toList := by
  obtain ⟨-, -, hcomment, -⟩ :=
    comments_onOneLine read_brokenPathText ofDocument_brokenPathDocument
  obtain ⟨hmem, hiff⟩ := hcomment ["a\nalert(1);"] "get" brokenPathEndpoint rfl
  exact ⟨read_brokenPathText, ofDocument_brokenPathDocument, hmem,
    fun hline => absurd (hiff.1 hline) (by decide)⟩

/-- What follows the line feed in the path is a line of its own in the module, outside the comment
that the path was written in. -/
theorem broken_path_leaves_comment :
    Document.read brokenPathText = .ok brokenPathDocument ∧
      Blueprint.ofDocument false brokenPathDocument = .ok brokenPathBlueprint ∧
      ¬(∀ c ∈ comments (moduleRows brokenPathBlueprint), OnOneLine c) ∧
      "      alert(1);//".toList ∈
        Layout.linesOf (render brokenPathBlueprint).toList := by
  refine ⟨read_brokenPathText, ofDocument_brokenPathDocument, by decide, ?_⟩
  -- The call functions are the last part of the module.
  rw [render, Layout.lines_render, moduleSteps, Layout.written_append]
  refine List.mem_append_left _ (List.mem_append_right _ ?_)
  decide +kernel

end TypedClient.TypeScript
