import TypedClient.Proofs.Blueprint.Basic
import TypedClient.Proofs.TypeScript.Declared
import TypedClient.Proofs.TypeScript.Distinct

/-!
# Names that are unfit for types

Some words cannot name a type of a module, since the language keeps them for itself, and some must
not, since the module refers to types of its surroundings by them (`IsUnfit`).  The identifiers of
declared names avoid each other and what the module declares for itself, and nothing else.  So a
module declares a type with an unfit name exactly if a named schema has this word for its identifier
(`unfit_type_iff`): numbers that are put behind an identifier never make an unfit name of it, and
never spare the module one, because the first schema with this identifier gets it as it is.

Hence a schema by the name of `Response` takes the place of the type that the fixed part of the
module reads answers from, and one by the name of `class` makes a module that is no module
(`unfit_types_declared`).
-/

namespace TypedClient.TypeScript

open Naming (identifier numbered)

/-- The words that name nothing in a module. -/
def keywords : List String := [
  "await", "break", "case", "catch", "class", "const", "continue", "debugger", "default", "delete",
  "do", "else", "enum", "export", "extends", "false", "finally", "for", "function", "if",
  "implements", "import", "in", "instanceof", "interface", "let", "new", "null", "package",
  "private", "protected", "public", "return", "static", "super", "switch", "this", "throw", "true",
  "try", "typeof", "var", "void", "while", "with", "yield"]

/-- The types of the language, whose names no other type can have. -/
def predefinedTypes : List String := [
  "any", "bigint", "boolean", "never", "number", "object", "string", "symbol", "undefined",
  "unknown"]

/-- The types that a module takes from its surroundings: `readJson` makes a promise of a response,
`toQueryString` is given a record, and every call function takes options for its request and makes a
promise. -/
def assumedTypes : List String := ["Promise", "Record", "RequestInit", "Response"]

/-- The names that no type of a module may have. -/
def unfitNames : List String := keywords ++ predefinedTypes ++ assumedTypes

/-- A module that declares a type by this name is not what it seems, or no module at all. -/
def IsUnfit (name : String) : Prop := name ∈ unfitNames

instance (name : String) : Decidable (IsUnfit name) := inferInstanceAs (Decidable (_ ∈ unfitNames))

namespace IsUnfit

variable {name : String}

/-- A module declares no unfit name for itself. -/
lemma not_mem_reserved (h : IsUnfit name) : name ∉ reserved := by
  have hall : ∀ name ∈ unfitNames, name ∉ reserved := by decide +kernel
  exact hall name h

/-- No unfit name ends with a digit. -/
lemma isDigit_eq_false (h : IsUnfit name) {c : Char} (hc : name.toList.getLast? = some c) :
    c.isDigit = false := by
  have hall : ∀ name ∈ unfitNames, (name.toList.getLast?.map Char.isDigit) = some false := by
    decide +kernel
  have hlast := hall name h
  rw [hc] at hlast
  exact Option.some_inj.1 hlast

/-- A form of an identifier is unfit only if it is the identifier itself. -/
lemma eq_of_numbered_eq (h : IsUnfit name) {wanted : String} {n : Nat}
    (heq : numbered wanted n = name) : wanted = name := by
  cases n with
  | zero => exact heq
  | succ n =>
    -- The last digit of the number would be the last character of the name.
    have hne : Nat.toDigits 10 (n + 2) ≠ [] := Nat.toDigits_ne_nil
    have hlast : name.toList.getLast? = (Nat.toDigits 10 (n + 2)).getLast? := by
      rw [← heq, numbered, String.toList_append, Nat.toString_eq_repr, Nat.toList_repr,
        List.getLast?_append_of_ne_nil _ hne]
    have hdigit : ((Nat.toDigits 10 (n + 2)).getLast hne).isDigit = true :=
      Nat.isDigit_of_mem_toDigits (by decide) (by decide) (List.getLast_mem hne)
    rw [List.getLast?_eq_some_getLast hne] at hlast
    rw [h.isDigit_eq_false hlast] at hdigit
    cases hdigit

end IsUnfit

variable {strict : Bool} {document : Document} {blueprint : Blueprint}

/-- A name that a module does not declare for itself is the type of a named schema if it is the
identifier of one. -/
lemma exists_component_typeName_eq (h : Blueprint.ofDocument strict document = .ok blueprint)
    {d : Declaration} (hd : d ∈ blueprint.components) (hreserved : identifier d.name ∉ reserved) :
    ∃ c ∈ blueprint.components,
      (Identifiers.ofDeclarations blueprint.declarations).typeName c.name = identifier d.name := by
  obtain ⟨before, after, hcomponents⟩ := List.append_of_mem hd
  have hdeclarations : blueprint.declarations = before ++ d :: (after ++ blueprint.inline) := by
    rw [Blueprint.declarations, hcomponents, List.append_assoc, List.cons_append]
  obtain ⟨n, hn, hsmaller⟩ :=
    Identifiers.typeName_spec (Blueprint.nodup_names_of_ofDocument h) hdeclarations
  cases n with
  | zero => exact ⟨d, hd, hn⟩
  | succ n =>
    -- The identifier itself was taken, so a schema before this one has it for its type.
    rcases hsmaller 0 (Nat.succ_pos n) with hmem | ⟨b, hb, hname⟩
    · exact absurd hmem hreserved
    · refine ⟨b, ?_, hname⟩
      rw [hcomponents]
      exact List.mem_append_left _ hb

/-- A module declares a type with an unfit name if and only if this is the identifier of a named
schema; so it declares none exactly if the identifiers of all named schemas are fit. -/
theorem unfit_type_iff (h : Blueprint.ofDocument strict document = .ok blueprint) :
    (∀ name, IsUnfit name →
      (name ∈ declaredNames typeKeyword (render blueprint) ↔
        ∃ d ∈ blueprint.components, identifier d.name = name)) ∧
    ((∀ name ∈ declaredNames typeKeyword (render blueprint), ¬IsUnfit name) ↔
      ∀ d ∈ blueprint.components, ¬IsUnfit (identifier d.name)) := by
  have heach : ∀ name, IsUnfit name →
      (name ∈ declaredNames typeKeyword (render blueprint) ↔
        ∃ d ∈ blueprint.components, identifier d.name = name) := by
    intro name hname
    have hconfig : name ≠ "ClientConfig" := by
      rintro rfl
      exact hname.not_mem_reserved (by decide)
    rw [declaredNames_types, List.mem_append, List.mem_singleton, or_iff_left hconfig,
      List.mem_map]
    constructor
    · rintro ⟨d, hd, htype⟩
      obtain ⟨before, after, hdeclarations⟩ :=
        List.append_of_mem (List.mem_append_left blueprint.inline hd)
      obtain ⟨n, hn, -⟩ :=
        Identifiers.typeName_spec (Blueprint.nodup_names_of_ofDocument h) hdeclarations
      exact ⟨d, hd, hname.eq_of_numbered_eq (hn.symm.trans htype)⟩
    · rintro ⟨d, hd, rfl⟩
      exact exists_component_typeName_eq h hd hname.not_mem_reserved
  refine ⟨heach, ?_, ?_⟩
  · intro hfit d hd hunfit
    exact hfit _ ((heach _ hunfit).2 ⟨d, hd, rfl⟩) hunfit
  · intro hfit name hmem hunfit
    obtain ⟨d, hd, rfl⟩ := (heach name hunfit).1 hmem
    exact hfit d hd hunfit

/-- Two schemas with unfit names, and an operation that answers with one of them. -/
def courseDocument : Document where
  components := some {
    schemas := some [("Response", .object {} [] [] none), ("class", .object {} [] [] none)] }
  paths := [("/courses", {
    operations := [("get", {
      responses := [("200", ⟨[(jsonMediaType,
        some (.reference {} "#/components/schemas/class"))]⟩)] })] })]

/-- The blueprint of the two schemas. -/
def courseBlueprint : Blueprint where
  components := [⟨"Response", .object [] .strip, false⟩, ⟨"class", .object [] .strip, false⟩]
  inline := []
  tree := .node [] [("courses", .node [("get", {
    method := "get", path := "/courses", response := some "class" })] [])]

/-- The description of the two schemas has its blueprint. -/
lemma ofDocument_courseDocument :
    Blueprint.ofDocument false courseDocument = .ok courseBlueprint := by
  cbv

/-- The module of the two schemas declares a type `class`, and no type `Record`. -/
theorem course_unfit_type :
    Blueprint.ofDocument false courseDocument = .ok courseBlueprint ∧
      "class" ∈ declaredNames typeKeyword (render courseBlueprint) ∧
      "Record" ∉ declaredNames typeKeyword (render courseBlueprint) := by
  obtain ⟨heach, -⟩ := unfit_type_iff ofDocument_courseDocument
  refine ⟨ofDocument_courseDocument, (heach "class" (by decide)).2 ?_, ?_⟩
  · exact ⟨⟨"class", .object [] .strip, false⟩, by simp [courseBlueprint], by decide⟩
  · rw [heach "Record" (by decide)]
    decide +kernel

/-- The module of the two schemas declares a type by the name of the one that its fixed part reads
answers from, and another one by a word that names nothing. -/
theorem unfit_types_declared :
    Blueprint.ofDocument false courseDocument = .ok courseBlueprint ∧
      "async function readJson(response: Response): Promise<unknown> \x7b" ∈ helpers ∧
      declaredNames typeKeyword (render courseBlueprint) =
        ["Response", "class", "ClientConfig"] ∧
      ¬∀ name ∈ declaredNames typeKeyword (render courseBlueprint), ¬IsUnfit name := by
  have htypes : declaredNames typeKeyword (render courseBlueprint) =
      ["Response", "class", "ClientConfig"] := by
    rw [declaredNames_types]
    decide +kernel
  refine ⟨ofDocument_courseDocument, by decide +kernel, htypes, fun hfit => ?_⟩
  rw [htypes] at hfit
  exact hfit "Response" List.mem_cons_self (by decide)

end TypedClient.TypeScript
