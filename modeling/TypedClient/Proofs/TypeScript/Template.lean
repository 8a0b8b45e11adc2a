import TypedClient.Proofs.Route.Tree
import TypedClient.Proofs.TypeScript.Constants
import TypedClient.TypeScript.Module

/-!
# The template of a module

A module is written from a template: rows of parts, in which a name of a schema stands where the
module has the constant or the type of this schema, and comments with texts of the description are
parts of their own.  The template of a blueprint does not depend on the identifiers.  Filled with
them, it is the module (`moduleSteps_eq`), so what a module says about schemas, and what it says in
comments, can be read off its template.
-/

namespace TypedClient.TypeScript

open Layout (Step block)

/-- A part of a row. -/
inductive Part where
  /-- Code that bears no name of a schema. -/
  | code (text : List Char)
  /-- A comment with a text of the description; it goes on up to the end of the line. -/
  | comment (text : List Char)
  /-- The constant of the schema with a name. -/
  | constant (name : String)
  /-- The type of the schema with a name. -/
  | type (name : String)

namespace Part

/-- The text of a part. -/
def text (ids : Identifiers) : Part → List Char
  | code text => text
  | comment text => text
  | constant name => (ids.schemaName name).toList
  | type name => (ids.typeName name).toList

/-- The part with its further lines moved to the right by two spaces. -/
def deepen : Part → Part
  | code text => code (TypeScript.deepen text)
  | comment text => comment (TypeScript.deepen text)
  | other => other

/-- The schema whose constant the part is. -/
def constant? : Part → Option String
  | constant name => some name
  | _ => none

/-- The schema whose type the part is. -/
def type? : Part → Option String
  | type name => some name
  | _ => none

/-- The text of a comment. -/
def comment? : Part → Option (List Char)
  | comment text => some text
  | _ => none

end Part

/-- A row of a template. -/
inductive Row where
  /-- A line, or several. -/
  | line (parts : List Part)
  /-- An empty line. -/
  | blank
  /-- The beginning of a deeper level. -/
  | indent
  /-- The end of a deeper level. -/
  | dedent

namespace Row

/-- The step that writes a row. -/
def step (ids : Identifiers) : Row → Step
  | line parts => .line (String.ofList (parts.flatMap (Part.text ids)))
  | blank => .blank
  | indent => .indent
  | dedent => .dedent

/-- The row of a step that bears no name of a schema. -/
def ofStep : Step → Row
  | .line text => line [.code text.toList]
  | .blank => blank
  | .indent => indent
  | .dedent => dedent

/-- The parts of a row. -/
def parts : Row → List Part
  | line parts => parts
  | _ => []

/-- Rows one level deeper, between a first and a last one. -/
def block (first : List Part) (inner : List Row) (last : String) : List Row :=
  [line first, indent] ++ inner ++ [dedent, line [.code last.toList]]

end Row

/-! ## Templates of declarations -/

/-- The comment behind a field. -/
def commentParts : Option String → List Part
  | none => []
  | some text => [.code [' '], .comment ("// ".toList ++ singleLine text)]

mutual

/-- The parts of the expression of a validator. -/
def parts : Validator → List Part
  | .string => [.code "z.string()".toList]
  | .number => [.code "z.number()".toList]
  | .boolean => [.code "z.boolean()".toList]
  | .any => [.code "z.any()".toList]
  | .object fields mode =>
    .code ("z.object(\x7b".toList ++ if fields.isEmpty then [] else ['\n']) ::
      (fieldParts fields ++ [.code ("\x7d)".toList ++ (modeSuffix mode).toList)])
  | .array items => .code "z.array(".toList :: (parts items ++ [.code [')']])
  | .union [] => [.code "z.any()".toList]
  | .union [only] => parts only
  | .union members => .code "z.union([".toList :: (memberParts members ++ [.code "])".toList])
  | .nullable inner => parts inner ++ [.code ".nullable()".toList]
  | .optional inner => parts inner ++ [.code ".optional()".toList]
  | .reference name false => [.constant name]
  | .reference name true => [.code "z.lazy(() => ".toList, .constant name, .code [')']]

/-- The parts of the lines of the fields of an object. -/
def fieldParts : List (Field Validator) → List Part
  | [] => []
  | ⟨name, v, description⟩ :: rest =>
    .code ("  ".toList ++ objectKey name ++ ": ".toList) :: ((parts v).map Part.deepen ++
      .code [','] :: (commentParts description ++ .code ['\n'] :: fieldParts rest))

/-- The parts of the expressions of the members of a union. -/
def memberParts : List Validator → List Part
  | [] => []
  | [v] => parts v
  | v :: rest => parts v ++ .code ", ".toList :: memberParts rest

end

/-- The parts of the declaration of the constant of a schema. -/
def declarationParts (d : Declaration) : List Part :=
  [.code "export const ".toList, .constant d.name] ++
    if d.deferred then
      .code ": z.ZodType<unknown> = z.lazy(() => ".toList :: (parts d.validator ++ [.code ");".toList])
    else .code " = ".toList :: (parts d.validator ++ [.code [';']])

/-- The parts of the declaration of the type of a schema. -/
def typeParts (d : Declaration) : List Part :=
  [.code "export type ".toList, .type d.name, .code " = z.infer<typeof ".toList, .constant d.name,
    .code ">;".toList]

/-! ## Templates of call functions -/

/-- A parameter whose type is what a schema accepts, before further parameters. -/
def inputParts (name : String) : Option String → List Part
  | none => []
  | some schema => [.code (name ++ ": z.input<typeof ").toList, .constant schema, .code ">, ".toList]

/-- The first line of a call function. -/
def signatureParts (key : String) (e : Endpoint) : List Part :=
  .code (keyText key ++ ": async (").toList :: (inputParts "query" e.query ++
    inputParts "body" e.body ++
    [.code "init?: RequestInit".toList, .code "): Promise<".toList,
      (e.response.map Part.type).getD (.code "any".toList), .code "> => \x7b".toList])

/-- The line that checks an input, and those that use it. -/
def checkRows (declared argument : String) (further : List Step) : Option String → List Row
  | none => []
  | some schema =>
    .line [.code declared.toList, .constant schema, .code argument.toList] :: further.map Row.ofStep

/-- The lines that put the address together and check what was given. -/
def inputRows (e : Endpoint) : List Row :=
  let binding := if e.query.isSome then "let" else "const"
  .line [.code (binding ++ " url = requireApiUrl(config) + " ++ quote e.path ++ ";").toList] ::
    (checkRows "const parsedQuery = " ".parse(query);"
      (.line "const search = toQueryString(parsedQuery);" ::
        block "if (search) \x7b" [.line "url += \"?\" + search;"] "\x7d") e.query ++
    checkRows "const parsedBody = " ".parse(body);" [] e.body)

/-- The lines that read the answer. -/
def readingSteps (e : Endpoint) : List Step :=
  let failure := "Request failed: " ++ e.httpMethod ++ " " ++ e.path
  .line "const data = await readJson(response);" ::
    block "if (response.status < 200 || response.status >= 400) \x7b"
      [.line ("console.error(" ++ quote failure ++
          ", response.status, response.statusText, data);"),
        .line "throw new ApiRequestError(response.status, response.statusText, data);"]
      "\x7d"

/-- The line that returns the checked answer. -/
def resultParts : Option String → List Part
  | none => [.code "return data;".toList]
  | some schema => [.code "return ".toList, .constant schema, .code ".parse(data);".toList]

/-- A call function. -/
def endpointRows (key : String) (e : Endpoint) : List Row :=
  .line [.comment (endpointComment e).toList] ::
    Row.block (signatureParts key e)
      (inputRows e ++ (requestSteps e ++ readingSteps e).map Row.ofStep ++
        [.line (resultParts e.response)])
      "\x7d,"

mutual

/-- The call functions at a node of the tree of routes and below it. -/
def treeRows : RouteTree → List Row
  | .node endpoints children =>
    (endpoints.flatMap fun e => endpointRows e.1 e.2) ++ childRows children

/-- The nodes below, each as an object. -/
def childRows : List (String × RouteTree) → List Row
  | [] => []
  | (key, tree) :: rest =>
    Row.block [.code (keyText key ++ ": \x7b").toList] (treeRows tree) "\x7d," ++ childRows rest

end

/-- The function that makes a client. -/
def factoryRows (tree : RouteTree) : List Row :=
  Row.block [.code "export function createClient(config: ClientConfig) \x7b".toList]
    (Row.block [.code "return \x7b".toList] (treeRows tree) "\x7d;") "\x7d"

/-- The template of the module of a blueprint. -/
def moduleRows (blueprint : Blueprint) : List Row :=
  header.map (Row.ofStep ∘ .line) ++ [.blank] ++ helpers.map (Row.ofStep ∘ .line) ++ [.blank] ++
    blueprint.components.map (fun d => .line (declarationParts d)) ++ [.blank] ++
    blueprint.components.map (fun d => .line (typeParts d)) ++ [.blank] ++
    blueprint.inline.map (fun d => .line (declarationParts d)) ++ [.blank] ++
    configSteps.map Row.ofStep ++ [.blank] ++ factoryRows blueprint.tree

/-! ## The filled template is the module -/

variable {ids : Identifiers}

/-- The text of moved parts is the moved text of the parts. -/
lemma flatMap_text_map_deepen (hids : NoLineEnds ids) (ps : List Part) :
    (ps.map Part.deepen).flatMap (Part.text ids) = deepen (ps.flatMap (Part.text ids)) := by
  have htype : ∀ name, '\n' ∉ (ids.typeName name).toList := by
    intro name hmem
    refine hids name ?_
    rw [Identifiers.schemaName, String.toList_append]
    exact List.mem_append_left _ hmem
  induction ps with
  | nil => rfl
  | cons p rest ih =>
    rw [List.map_cons, List.flatMap_cons, List.flatMap_cons, deepen, List.flatMap_append, ih]
    cases p with
    | code text => rfl
    | comment text => rfl
    | constant name => exact congrArg (· ++ _) (deepen_of_not_mem (hids name)).symm
    | type name => exact congrArg (· ++ _) (deepen_of_not_mem (htype name)).symm

/-- The parts of a comment behind a field are its text. -/
lemma flatMap_text_commentParts (description : Option String) :
    (commentParts description).flatMap (Part.text ids) = fieldComment description := by
  cases description with
  | none => rfl
  | some text => exact congrArg ([' '] ++ ·) (List.append_nil _)

/-- Put together, the parts of an expression are the expression. -/
lemma flatMap_text_parts (hids : NoLineEnds ids) (v : Validator) :
    (parts v).flatMap (Part.text ids) = expression ids v := by
  induction v using Validator.inductionOn with
  | string => rfl
  | number => rfl
  | boolean => rfl
  | any => rfl
  | object fields mode ih =>
    have hfields : (fieldParts fields).flatMap (Part.text ids) = fieldLines ids fields := by
      induction fields with
      | nil => rfl
      | cons f rest ihrest =>
        obtain ⟨hf, hrest⟩ := List.forall_mem_cons.1 ih
        obtain ⟨name, v, description⟩ := f
        rw [fieldParts.eq_def, fieldLines.eq_def]
        -- the equation of `fieldLine` would be slow to state, for the literals in it
        delta fieldLine
        simp only [List.flatMap_cons, List.flatMap_append, flatMap_text_map_deepen hids, hf,
          flatMap_text_commentParts, ihrest hrest, Part.text, List.append_assoc]
    rw [parts.eq_def, expression.eq_def]
    simp only [List.flatMap_cons, List.flatMap_append, hfields, Part.text, List.flatMap_nil,
      List.append_assoc, List.append_nil]
  | array items ih =>
    rw [parts.eq_def, expression.eq_def]
    simp only [List.flatMap_cons, List.flatMap_append, ih, Part.text, List.flatMap_nil,
      List.append_assoc, List.append_nil]
  | union members ih =>
    have hmembers : (memberParts members).flatMap (Part.text ids) = memberList ids members := by
      induction members with
      | nil => rfl
      | cons m rest ihrest =>
        obtain ⟨hm, hrest⟩ := List.forall_mem_cons.1 ih
        rw [memberParts.eq_def, memberList.eq_def]
        cases rest with
        | nil => exact hm
        | cons m' rest' =>
          simp only [List.flatMap_cons, List.flatMap_append, hm, ihrest hrest, Part.text,
            List.append_assoc]
    rw [parts.eq_def, expression.eq_def]
    cases members with
    | nil => rfl
    | cons m rest =>
      cases rest with
      | nil => exact ih m List.mem_cons_self
      | cons m' rest' =>
        simp only [List.flatMap_cons, List.flatMap_append, hmembers, Part.text, List.flatMap_nil,
          List.append_assoc, List.append_nil]
  | nullable inner ih =>
    rw [parts.eq_def, expression.eq_def]
    simp only [List.flatMap_cons, List.flatMap_append, ih, Part.text, List.flatMap_nil,
      List.append_nil]
  | optional inner ih =>
    rw [parts.eq_def, expression.eq_def]
    simp only [List.flatMap_cons, List.flatMap_append, ih, Part.text, List.flatMap_nil,
      List.append_nil]
  | reference name deferred =>
    rw [parts.eq_def, expression.eq_def]
    cases deferred <;>
      simp only [List.flatMap_cons, Part.text, List.flatMap_nil, List.append_nil, List.append_assoc]

/-- A row of the declaration of a constant is written as the declaration. -/
lemma step_declarationParts (hids : NoLineEnds ids) (d : Declaration) :
    (Row.line (declarationParts d)).step ids = .line (declarationText ids d) := by
  refine congrArg Step.line (String.toList_inj.1 ?_)
  delta declarationParts declarationText
  dsimp only
  cases d.deferred <;>
    simp only [Bool.false_eq_true, ↓reduceIte, List.cons_append, List.nil_append,
      List.flatMap_cons, List.flatMap_append, flatMap_text_parts hids, Part.text, List.flatMap_nil,
      List.append_nil, String.toList_append, String.toList_ofList, List.append_assoc]
  rfl

/-- A row of the declaration of a type is written as the declaration. -/
lemma step_typeParts (d : Declaration) :
    (Row.line (typeParts d)).step ids = .line (typeText ids d) := by
  refine congrArg Step.line (String.toList_inj.1 ?_)
  delta typeParts typeText
  simp only [List.flatMap_cons, Part.text, List.flatMap_nil, List.append_nil, String.toList_append,
    String.toList_ofList, List.append_assoc]

/-- A row of a step is written as the step. -/
@[simp] lemma step_ofStep (s : Step) : (Row.ofStep s).step ids = s := by
  cases s with
  | line text => exact congrArg Step.line (by simp [Part.text])
  | blank => rfl
  | indent => rfl
  | dedent => rfl

/-- Rows of steps are written as the steps. -/
@[simp] lemma map_step_map_ofStep (steps : List Step) :
    (steps.map Row.ofStep).map (Row.step ids) = steps := by
  rw [List.map_map]
  exact (List.map_congr_left fun s _ => step_ofStep s).trans (List.map_id steps)

/-- A block of rows is written as a block. -/
@[simp] lemma map_step_block (first : List Part) (inner : List Row) (last : String) :
    (Row.block first inner last).map (Row.step ids) =
      block (String.ofList (first.flatMap (Part.text ids))) (inner.map (Row.step ids)) last := by
  simp [Row.block, block, Layout.opening, Layout.closing, Row.step, Part.text]

/-- The parts of the first line of a call function are its text. -/
lemma flatMap_text_signatureParts (key : String) (e : Endpoint) :
    (signatureParts key e).flatMap (Part.text ids) = (signature ids key e).toList := by
  have hinput : ∀ (name : String) (schema? : Option String) (rest : List String), rest ≠ [] →
      Text.join ", ".toList (((schema?.map (inputParameter ids name)).toList ++ rest).map
          String.toList) =
        (inputParts name schema?).flatMap (Part.text ids) ++
          Text.join ", ".toList (rest.map String.toList) := by
    intro name schema? rest hrest
    cases schema? with
    | none => rfl
    | some schema =>
      obtain ⟨next, more, rfl⟩ := List.exists_cons_of_ne_nil hrest
      simp [inputParameter, inputParts, Text.join, Part.text]
  have hresponse : Part.text ids ((e.response.map Part.type).getD (.code "any".toList)) =
      ((e.response.map ids.typeName).getD "any").toList := by
    cases e.response <;> rfl
  have hcode : ∀ text, Part.text ids (.code text) = text := fun _ => rfl
  simp only [signature, Text.joinStrings, List.append_assoc, String.toList_append,
    String.toList_ofList]
  rw [hinput _ _ _ (by simp), hinput _ _ _ (by simp)]
  simp only [signatureParts, List.flatMap_cons, List.flatMap_append, List.flatMap_nil, hcode,
    hresponse, List.map_cons, List.map_nil, Text.join, String.toList_append, List.append_assoc,
    List.append_nil]

/-- The rows of a checked input are written as the steps that check it. -/
lemma map_step_checkRows (declared argument : String) (further : List Step)
    (schema? : Option String) :
    (checkRows declared argument further schema?).map (Row.step ids) =
      match schema? with
      | none => []
      | some schema => .line (declared ++ ids.schemaName schema ++ argument) :: further := by
  cases schema? with
  | none => rfl
  | some schema =>
    rw [checkRows, List.map_cons, map_step_map_ofStep]
    refine congrArg (Step.line · :: further) (String.toList_inj.1 ?_)
    simp only [List.flatMap_cons, List.flatMap_nil, Part.text, List.append_nil,
      String.toList_append, String.toList_ofList, List.append_assoc]

/-- The rows of the inputs are written as the steps for them. -/
lemma map_step_inputRows (e : Endpoint) : (inputRows e).map (Row.step ids) = inputSteps ids e := by
  have hcode : ∀ text : String, (Row.line [.code text.toList]).step ids = .line text :=
    fun text => step_ofStep (.line text)
  rw [inputRows, inputSteps, List.map_cons, hcode, List.map_append, map_step_checkRows, map_step_checkRows]
  cases e.query <;> cases e.body <;> rfl

/-- What a call function does with an answer: it reads it, and returns it checked. -/
lemma answerSteps_eq (e : Endpoint) :
    answerSteps ids e = readingSteps e ++ [(Row.line (resultParts e.response)).step ids] := by
  have hnone : (Row.line (resultParts none)).step ids = .line "return data;" :=
    congrArg Step.line (String.toList_inj.1 rfl)
  have hsome : ∀ schema, (Row.line (resultParts (some schema))).step ids =
      .line ("return " ++ ids.schemaName schema ++ ".parse(data);") := by
    refine fun schema => congrArg Step.line (String.toList_inj.1 ?_)
    simp only [resultParts, List.flatMap_cons, List.flatMap_nil, Part.text, List.append_nil,
      String.toList_append, String.toList_ofList, List.append_assoc]
  delta answerSteps
  dsimp only
  cases e.response with
  | none =>
    rw [hnone]
    rfl
  | some schema =>
    rw [hsome]
    rfl

/-- The rows of a call function are written as the call function. -/
lemma map_step_endpointRows (key : String) (e : Endpoint) :
    (endpointRows key e).map (Row.step ids) = endpointSteps ids key e := by
  have hcomment : (Row.line [.comment (endpointComment e).toList]).step ids =
      .line (endpointComment e) := step_ofStep (.line _)
  rw [endpointRows, endpointSteps, List.map_cons, hcomment, map_step_block,
    flatMap_text_signatureParts, String.ofList_toList, List.map_append, List.map_append,
    map_step_map_ofStep, map_step_inputRows, answerSteps_eq]
  simp only [List.map_cons, List.map_nil, List.append_assoc]

/-- The rows of a tree of routes are written as its call functions. -/
lemma map_step_treeRows (t : RouteTree) : (treeRows t).map (Row.step ids) = treeSteps ids t := by
  induction t using RouteTree.inductionOn with
  | node es cs ih =>
    have hbelow : (childRows cs).map (Row.step ids) = childSteps ids cs := by
      induction cs with
      | nil => rfl
      | cons c rest ihrest =>
        obtain ⟨hc, hrest⟩ := List.forall_mem_cons.1 ih
        obtain ⟨key, child⟩ := c
        rw [childRows, childSteps, List.map_append, map_step_block, ihrest hrest, hc]
        simp [Part.text]
    rw [treeRows, treeSteps, List.map_append, hbelow, List.map_flatMap]
    simp only [map_step_endpointRows]

/-- The template of a blueprint, filled with the identifiers of its declarations, is its module. -/
theorem moduleSteps_eq (blueprint : Blueprint) :
    moduleSteps blueprint = (moduleRows blueprint).map
      (Row.step (Identifiers.ofDeclarations blueprint.declarations)) := by
  have hids := noLineEnds_ofDeclarations blueprint.declarations
  generalize hids' : Identifiers.ofDeclarations blueprint.declarations = ids at hids
  have hfactory : (factoryRows blueprint.tree).map (Row.step ids) =
      factorySteps ids blueprint.tree := by
    rw [factoryRows, factorySteps, map_step_block, map_step_block, map_step_treeRows]
    simp [Part.text]
  have hblank : [Row.blank].map (Row.step ids) = [.blank] := rfl
  rw [moduleSteps, hids', moduleRows]
  simp only [List.map_append, hblank, hfactory, List.map_map, Function.comp_def, step_ofStep,
    step_declarationParts hids, step_typeParts, List.map_id']

end TypedClient.TypeScript
