import Mathlib
import TypedClient.Blueprint
import TypedClient.Proofs.Entries
import TypedClient.Proofs.Route.Inline
import TypedClient.Proofs.Validator.Declaration

/-!
# How a blueprint comes about

A description has a blueprint if it has a place for named schemas, its operations do not exclude
each other, and, in strict mode, none of its schemas is degraded (`Blueprint.ofDocument_eq_ok_iff`).
Its declarations have different names, so that the registry has each of them
(`Blueprint.get?_registry_of_mem`).
-/

namespace TypedClient.Blueprint

variable {strict : Bool} {document : Document} {blueprint : Blueprint}

/-- When a description has a blueprint, and what the blueprint consists of. -/
lemma ofDocument_eq_ok_iff :
    ofDocument strict document = .ok blueprint ↔
      ∃ schemas routes, document.schemas? = some schemas ∧
        Routes.ofDocument document (.ofSchemas schemas) = .ok routes ∧
        (strict = true →
          Notice.NoneDegraded (Declaration.notices schemas (.ofSchemas schemas)) ∧
          Notice.NoneDegraded
            (Declaration.inlineNotices routes.inline (.ofSchemas schemas))) ∧
        blueprint = {
          components := Declaration.compiled schemas (.ofSchemas schemas)
          inline := Declaration.compiledInline routes.inline (.ofSchemas schemas)
          tree := routes.tree } := by
  unfold ofDocument
  cases document.schemas? with
  | none => simp
  | some schemas =>
    simp only [Except.bind_eq_ok_iff, Except.mapError_eq_ok_iff, Declaration.ofSchemas_eq_ok_iff,
      Declaration.ofInline_eq_ok_iff, pure, Except.pure, Except.ok.injEq]
    constructor
    · rintro ⟨_, ⟨rfl, hschemas⟩, routes, hroutes, _, ⟨rfl, hinline⟩, rfl⟩
      exact ⟨schemas, routes, rfl, hroutes, fun h => ⟨hschemas h, hinline h⟩, rfl⟩
    · rintro ⟨_, routes, hs, hroutes, hstrict, rfl⟩
      cases hs
      exact ⟨_, ⟨rfl, fun h => (hstrict h).1⟩, routes, hroutes, _, ⟨rfl, fun h => (hstrict h).2⟩,
        rfl⟩

/-- No two declarations of a blueprint have the same name. -/
lemma nodup_names_of_ofDocument (h : ofDocument strict document = .ok blueprint) :
    (blueprint.declarations.map Declaration.name).Nodup := by
  obtain ⟨schemas, routes, -, hroutes, -, rfl⟩ := ofDocument_eq_ok_iff.1 h
  have happart := Routes.apart_ofDocument hroutes
  have hkeys : ∀ name ∈ (SchemaOrder.ofSchemas schemas).names, name ∈ schemas.keys :=
    fun name => (SchemaOrder.mem_names_ofSchemas schemas).1
  rw [declarations, List.map_append, Declaration.map_name_compiled hkeys,
    Declaration.map_name_compiledInline, List.nodup_append]
  refine ⟨SchemaOrder.nodup_names_ofSchemas schemas, happart.nodup, ?_⟩
  rintro name hname _ hinline rfl
  exact happart.not_mem name hinline hname

/-- Each declaration of a blueprint is found in the registry under its name. -/
lemma get?_registry_of_mem (h : ofDocument strict document = .ok blueprint) {d : Declaration}
    (hd : d ∈ blueprint.declarations) : blueprint.registry.get? d.name = some d.validator :=
  Registry.get?_ofDeclarations (nodup_names_of_ofDocument h) hd

/-- If named schemas have a place and the operations do not exclude each other, then only a
degradation can prevent a blueprint. -/
lemma exists_degraded_of_ofDocument_eq_error {schemas : Entries Schema} {routes : Routes}
    {failure : Failure} (hschemas : document.schemas? = some schemas)
    (hroutes : Routes.ofDocument document (.ofSchemas schemas) = .ok routes)
    (h : ofDocument strict document = .error failure) : ∃ d, failure = .degraded d := by
  unfold ofDocument at h
  rw [hschemas] at h
  rcases Except.bind_eq_error_iff.1 h with hcomponents | ⟨components, -, h⟩
  · obtain ⟨d, -, rfl⟩ := Except.mapError_eq_error_iff.1 hcomponents
    exact ⟨d, rfl⟩
  rcases Except.bind_eq_error_iff.1 h with hconflict | ⟨routes', hroutes', h⟩
  · obtain ⟨c, hc, -⟩ := Except.mapError_eq_error_iff.1 hconflict
    rw [hroutes] at hc
    cases hc
  rcases Except.bind_eq_error_iff.1 h with hinline | ⟨inline, -, h⟩
  · obtain ⟨d, -, rfl⟩ := Except.mapError_eq_error_iff.1 hinline
    exact ⟨d, rfl⟩
  · cases h

/-- Two schemas that refer to each other, the first one also to itself, and an operation that takes
a list of values of the first. -/
def circleDocument : Document where
  components := some {
    schemas := some [
      ("Person", .object {}
        [("home", .reference {} "#/components/schemas/House"),
          ("friend", .reference { nullable := true } "#/components/schemas/Person")]
        ["home"] none),
      ("House", .object {}
        [("owner", .reference {} "#/components/schemas/Person"), ("door", .primitive {} .integer)]
        [] (some false))] }
  paths := [("/people", {
    operations := [("post", {
      requestBody := some ⟨[(jsonMediaType,
        some (.array {} (.reference {} "#/components/schemas/Person")))]⟩ })] })]

/-- The blueprint of the two schemas: the reference from the house back to the person is deferred,
and so is the one from the person to itself. -/
def circleBlueprint : Blueprint where
  components := [
    ⟨"House", .object [
      { name := "owner", body := .optional (.reference "Person" true) },
      { name := "door", body := .optional .number }] .strict, false⟩,
    ⟨"Person", .object [
      { name := "home", body := .reference "House" false },
      { name := "friend", body := .optional (.nullable (.reference "Person" true)) }] .strip, true⟩]
  inline := [⟨"postPeopleInput", .array (.reference "Person" false), false⟩]
  tree := .node [] [("people", .node [("post", {
    method := "post", path := "/people", body := some "postPeopleInput" })] [])]

/-- The description of the two schemas has its blueprint. -/
lemma ofDocument_circleDocument : ofDocument false circleDocument = .ok circleBlueprint := by
  cbv

end TypedClient.Blueprint
