import TypedClient.Proofs.Route.Listing
import TypedClient.Proofs.Text.Lines
import TypedClient.Proofs.TypeScript.Template

/-!
# What stands in the template of a module

The constants and types of schemas and the comments in a template are found part by part.  In the
declaration of a schema stand its own constant and those of the schemas that it refers to, in order;
at an endpoint stand the constants of its query, its body and its answer, each where it is checked,
and the type of its answer.  Comments stand behind fields, and before endpoints.
-/

namespace TypedClient.TypeScript

open Layout (Step)

/-- The parts of a call function that are not code, in order: the comment before it, the parameters
and the result of its first line, and the schemas that check them. -/
def shownParts (e : Endpoint) : List Part :=
  [.comment (endpointComment e).toList] ++ e.query.toList.map .constant ++
    e.body.toList.map .constant ++ e.response.toList.map .type ++ e.schemaNames.map .constant

section Findings

variable {α : Type} (f : Part → Option α)

/-- What a function finds among the parts of rows, in order. -/
def findings (rows : List Row) : List α := rows.flatMap fun row => row.parts.filterMap f

/-- The schemas whose constants stand in rows. -/
def constants : List Row → List String := findings Part.constant?

/-- The schemas whose types stand in rows. -/
def types : List Row → List String := findings Part.type?

/-- The comments in rows. -/
def comments : List Row → List (List Char) := findings Part.comment?

lemma findings_append (a b : List Row) : findings f (a ++ b) = findings f a ++ findings f b :=
  List.flatMap_append

lemma findings_line (ps : List Part) (rows : List Row) :
    findings f (.line ps :: rows) = ps.filterMap f ++ findings f rows := rfl

/-- Among several lines is found what is found in each. -/
lemma findings_map_line {β : Type} (line : β → List Part) (xs : List β) :
    findings f (xs.map fun x => .line (line x)) = xs.flatMap fun x => (line x).filterMap f :=
  List.flatMap_map _ _ _

/-- The level of a block counts for nothing. -/
lemma findings_block (first : List Part) (inner : List Row) (last : String) :
    findings f (Row.block first inner last) =
      first.filterMap f ++ findings f inner ++ findings f [.line [.code last.toList]] := by
  rw [Row.block, findings_append, findings_append]
  exact congrArg₂ (· ++ _ ++ ·) (List.append_nil _) rfl

variable {f} (hcode : ∀ text, f (.code text) = none)

include hcode

/-- Nothing is found in code. -/
lemma findings_code (text : List Char) : findings f [.line [.code text]] = [] := by
  simp [findings, Row.parts, hcode]

/-- Nothing is found in the rows of steps. -/
lemma findings_map_ofStep (steps : List Step) : findings f (steps.map Row.ofStep) = [] := by
  refine List.flatMap_eq_nil_iff.2 fun row hrow => ?_
  obtain ⟨s, -, rfl⟩ := List.mem_map.1 hrow
  cases s with
  | line text => simp [Row.ofStep, Row.parts, hcode]
  | blank => rfl
  | indent => rfl
  | dedent => rfl

/-- At a call function is found what is found in the parts that it shows. -/
lemma findings_endpointRows (key : String) (e : Endpoint) :
    findings f (endpointRows key e) = (shownParts e).filterMap f := by
  have hinput : ∀ name schema?, (inputParts name schema?).filterMap f =
      (schema?.toList.map Part.constant).filterMap f := by
    intro name schema?
    cases schema? <;> simp [inputParts, hcode, List.filterMap_cons]
  have hsignature : (signatureParts key e).filterMap f =
      (e.query.toList.map Part.constant ++ e.body.toList.map Part.constant ++
        e.response.toList.map Part.type).filterMap f := by
    rw [signatureParts, List.filterMap_cons_none (hcode _), List.filterMap_append,
      List.filterMap_append, hinput, hinput, List.filterMap_append, List.filterMap_append,
      List.append_right_inj]
    cases e.response <;> simp [hcode, List.filterMap_cons]
  have hcheck : ∀ declared argument further schema?,
      findings f (checkRows declared argument further schema?) =
        (schema?.toList.map Part.constant).filterMap f := by
    intro declared argument further schema?
    cases schema? with
    | none => rfl
    | some schema =>
      rw [checkRows, findings_line, findings_map_ofStep hcode]
      simp [hcode, List.filterMap_cons]
  have hresult : (resultParts e.response).filterMap f =
      (e.response.toList.map Part.constant).filterMap f := by
    cases e.response <;> simp [resultParts, hcode, List.filterMap_cons]
  have hinputs : findings f (inputRows e) =
      (e.query.toList.map Part.constant ++ e.body.toList.map Part.constant).filterMap f := by
    rw [inputRows, findings_line, findings_append, hcheck, hcheck,
      List.filterMap_cons_none (hcode _), List.filterMap_append]
    rfl
  rw [endpointRows, findings_line, findings_block, findings_append, findings_append,
    findings_map_ofStep hcode, findings_code hcode, findings_line, hsignature, hinputs, hresult]
  simp only [shownParts, Endpoint.schemaNames, findings, List.flatMap_nil, List.map_append,
    List.filterMap_append, List.append_nil, List.append_assoc]

/-- In a tree is found what is found at each of its endpoints. -/
lemma findings_treeRows (t : RouteTree) :
    findings f (treeRows t) = t.allEndpoints.flatMap fun x => findings f (endpointRows x.1 x.2) := by
  induction t using RouteTree.inductionOn with
  | node es cs ih =>
    have hbelow : findings f (childRows cs) = (RouteTree.allEndpointsBelow cs).flatMap fun x =>
        findings f (endpointRows x.1 x.2) := by
      induction cs with
      | nil => rfl
      | cons c rest ihrest =>
        obtain ⟨hc, hrest⟩ := List.forall_mem_cons.1 ih
        obtain ⟨key, child⟩ := c
        rw [childRows, RouteTree.allEndpointsBelow, findings_append, findings_block,
          findings_code hcode, ihrest hrest, hc, List.flatMap_append]
        simp [hcode]
    rw [treeRows, RouteTree.allEndpoints, findings_append, hbelow, List.flatMap_append, findings,
      List.flatMap_assoc]
    rfl

/-- In a module is found what is found in its declarations and at its endpoints. -/
lemma findings_moduleRows (blueprint : Blueprint) :
    findings f (moduleRows blueprint) =
      (blueprint.components.flatMap fun d => (declarationParts d).filterMap f) ++
        ((blueprint.components.flatMap fun d => (typeParts d).filterMap f) ++
          ((blueprint.inline.flatMap fun d => (declarationParts d).filterMap f) ++
            blueprint.tree.allEndpoints.flatMap fun x => findings f (endpointRows x.1 x.2))) := by
  have hblank : findings f [.blank] = [] := rfl
  have hlines : ∀ lines : List String, findings f (lines.map (Row.ofStep ∘ .line)) = [] :=
    fun lines => by rw [← List.map_map, findings_map_ofStep hcode]
  have hfactory : findings f (factoryRows blueprint.tree) =
      blueprint.tree.allEndpoints.flatMap fun x => findings f (endpointRows x.1 x.2) := by
    rw [factoryRows, findings_block, findings_block, findings_code hcode, findings_code hcode,
      findings_treeRows hcode]
    simp only [List.filterMap_cons, hcode, List.filterMap_nil, List.nil_append, List.append_nil]
  rw [moduleRows]
  simp only [findings_append, hblank, hlines, findings_map_ofStep hcode, hfactory,
    findings_map_line, List.nil_append, List.append_assoc]

end Findings

/-- At a call function stand the constants of its query and its body in the first line, and those of
all its schemas where they check. -/
lemma constants_endpointRows (key : String) (e : Endpoint) :
    constants (endpointRows key e) = e.query.toList ++ e.body.toList ++ e.schemaNames := by
  rw [constants, findings_endpointRows fun _ => rfl, shownParts]
  simp [List.filterMap_cons, List.filterMap_map, Function.comp_def, Part.constant?]

/-- At a call function stands the type of its answer. -/
lemma types_endpointRows (key : String) (e : Endpoint) :
    types (endpointRows key e) = e.response.toList := by
  rw [types, findings_endpointRows fun _ => rfl, shownParts]
  simp [List.filterMap_cons, List.filterMap_map, Function.comp_def, Part.type?]

/-- At a call function stands the comment before it. -/
lemma comments_endpointRows (key : String) (e : Endpoint) :
    comments (endpointRows key e) = [(endpointComment e).toList] := by
  rw [comments, findings_endpointRows fun _ => rfl, shownParts]
  simp [List.filterMap_map, Function.comp_def, Part.comment?]

/-! ## Declarations -/

/-- What holds of code, of constants and of comments on fields, and is kept when lines are moved,
holds of all parts of an expression. -/
lemma forall_mem_parts {P : Part → Prop} (hcode : ∀ text, P (.code text))
    (hconstant : ∀ name, P (.constant name))
    (hcomment : ∀ text, P (.comment ("// ".toList ++ singleLine text)))
    (hdeepen : ∀ p, P p → P p.deepen) (v : Validator) : ∀ p ∈ parts v, P p := by
  induction v using Validator.inductionOn with
  | string => exact List.forall_mem_singleton.2 (hcode _)
  | number => exact List.forall_mem_singleton.2 (hcode _)
  | boolean => exact List.forall_mem_singleton.2 (hcode _)
  | any => exact List.forall_mem_singleton.2 (hcode _)
  | object fields mode ih =>
    have hdescription : ∀ description, ∀ p ∈ commentParts description, P p := by
      intro description
      cases description with
      | none => exact List.forall_mem_nil P
      | some text =>
        exact List.forall_mem_cons.2 ⟨hcode _, List.forall_mem_singleton.2 (hcomment text)⟩
    have hfields : ∀ p ∈ fieldParts fields, P p := by
      induction fields with
      | nil => exact List.forall_mem_nil P
      | cons f rest ihrest =>
        obtain ⟨hf, hrest⟩ := List.forall_mem_cons.1 ih
        obtain ⟨name, v, description⟩ := f
        have hmoved : ∀ p ∈ (parts v).map Part.deepen, P p :=
          List.forall_mem_map.2 fun p hp => hdeepen p (hf p hp)
        rw [fieldParts]
        simp only [List.forall_mem_cons, List.forall_mem_append]
        exact ⟨hcode _, hmoved, hcode _, hdescription description, hcode _, ihrest hrest⟩
    rw [parts.eq_def]
    simp only [List.forall_mem_cons, List.forall_mem_append]
    exact ⟨hcode _, hfields, hcode _, List.forall_mem_nil P⟩
  | array items ih =>
    rw [parts.eq_def]
    simp only [List.forall_mem_cons, List.forall_mem_append]
    exact ⟨hcode _, ih, hcode _, List.forall_mem_nil P⟩
  | union members ih =>
    have hmembers : ∀ p ∈ memberParts members, P p := by
      induction members with
      | nil => exact List.forall_mem_nil P
      | cons m rest ihrest =>
        obtain ⟨hm, hrest⟩ := List.forall_mem_cons.1 ih
        rw [memberParts.eq_def]
        cases rest with
        | nil => exact hm
        | cons m' rest' =>
          simp only [List.forall_mem_cons, List.forall_mem_append]
          exact ⟨hm, hcode _, ihrest hrest⟩
    rw [parts.eq_def]
    cases members with
    | nil => exact List.forall_mem_singleton.2 (hcode _)
    | cons m rest =>
      cases rest with
      | nil => exact ih m List.mem_cons_self
      | cons m' rest' =>
        simp only [List.forall_mem_cons, List.forall_mem_append]
        exact ⟨hcode _, hmembers, hcode _, List.forall_mem_nil P⟩
  | nullable inner ih =>
    rw [parts.eq_def]
    exact List.forall_mem_append.2 ⟨ih, List.forall_mem_singleton.2 (hcode _)⟩
  | optional inner ih =>
    rw [parts.eq_def]
    exact List.forall_mem_append.2 ⟨ih, List.forall_mem_singleton.2 (hcode _)⟩
  | reference name deferred =>
    rw [parts.eq_def]
    cases deferred with
    | false => exact List.forall_mem_singleton.2 (hconstant name)
    | true =>
      simp only [List.forall_mem_cons]
      exact ⟨hcode _, hconstant name, hcode _, List.forall_mem_nil P⟩

/-- The constants in an expression are those of its references, in order. -/
lemma filterMap_constant?_parts (v : Validator) :
    (parts v).filterMap Part.constant? = v.references.map Prod.fst := by
  have hmoved : ∀ ps : List Part,
      (ps.map Part.deepen).filterMap Part.constant? = ps.filterMap Part.constant? := fun ps => by
    rw [List.filterMap_map]
    refine List.filterMap_congr fun p _ => ?_
    cases p <;> rfl
  have hcomment : ∀ description, (commentParts description).filterMap Part.constant? = [] := by
    intro description
    cases description <;> rfl
  have hcode : ∀ text, Part.constant? (.code text) = none := fun _ => rfl
  induction v using Validator.inductionOn with
  | string => rfl
  | number => rfl
  | boolean => rfl
  | any => rfl
  | object fields mode ih =>
    have hfields : (fieldParts fields).filterMap Part.constant? =
        (Validator.referencesOfFields fields).map Prod.fst := by
      induction fields with
      | nil => rfl
      | cons f rest ihrest =>
        obtain ⟨hf, hrest⟩ := List.forall_mem_cons.1 ih
        obtain ⟨name, v, description⟩ := f
        rw [fieldParts, Validator.referencesOfFields]
        simp only [List.filterMap_cons, List.filterMap_append, List.map_append, hcode, hmoved,
          hcomment, hf, ihrest hrest, List.nil_append]
    rw [parts.eq_def, Validator.references]
    simp only [List.filterMap_cons, List.filterMap_append, hcode, hfields, List.filterMap_nil,
      List.append_nil]
  | array items ih =>
    rw [parts.eq_def, Validator.references]
    simp only [List.filterMap_cons, List.filterMap_append, hcode, ih, List.filterMap_nil,
      List.append_nil]
  | union members ih =>
    have hmembers : (memberParts members).filterMap Part.constant? =
        (Validator.referencesOfMembers members).map Prod.fst := by
      induction members with
      | nil => rfl
      | cons m rest ihrest =>
        obtain ⟨hm, hrest⟩ := List.forall_mem_cons.1 ih
        rw [memberParts.eq_def, Validator.referencesOfMembers, List.map_append, ← ihrest hrest]
        cases rest with
        | nil => simpa [memberParts] using hm
        | cons m' rest' =>
          simp only [List.filterMap_cons, List.filterMap_append, hcode, hm]
    rw [parts.eq_def, Validator.references, ← hmembers]
    cases members with
    | nil => rfl
    | cons m rest =>
      cases rest with
      | nil => rfl
      | cons m' rest' =>
        simp only [List.filterMap_cons, List.filterMap_append, hcode, List.filterMap_nil,
          List.append_nil]
  | nullable inner ih =>
    rw [parts.eq_def, Validator.references]
    simp only [List.filterMap_cons, List.filterMap_append, hcode, ih, List.filterMap_nil,
      List.append_nil]
  | optional inner ih =>
    rw [parts.eq_def, Validator.references]
    simp only [List.filterMap_cons, List.filterMap_append, hcode, ih, List.filterMap_nil,
      List.append_nil]
  | reference name deferred => cases deferred <;> rfl

/-- Whether a declaration is deferred makes no difference to what is found in it. -/
lemma filterMap_declarationParts {α : Type} {f : Part → Option α}
    (hcode : ∀ text, f (.code text) = none) (d : Declaration) :
    (declarationParts d).filterMap f =
      [Part.constant d.name].filterMap f ++ (parts d.validator).filterMap f := by
  have hvalue : ∀ before after : List Char,
      (Part.code before :: (parts d.validator ++ [.code after])).filterMap f =
        (parts d.validator).filterMap f := fun before after => by
    rw [List.filterMap_cons_none (hcode before), List.filterMap_append,
      List.filterMap_cons_none (hcode after), List.filterMap_nil, List.append_nil]
  rw [declarationParts, List.filterMap_append, List.filterMap_cons_none (hcode _)]
  refine congrArg (_ ++ ·) ?_
  split
  · exact hvalue _ _
  · exact hvalue _ _

end TypedClient.TypeScript
