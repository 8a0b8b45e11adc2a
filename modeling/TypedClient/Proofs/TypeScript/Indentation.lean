import TypedClient.Proofs.Layout.Level
import TypedClient.Proofs.Route.Tree
import TypedClient.TypeScript.Module

/-!
# The indentation of client modules

The call functions are written by balanced steps, whatever the tree of routes is and whichever of
query, body and answer an endpoint has (`TypeScript.balanced_treeSteps`), and so is a whole module
(`TypeScript.balanced_moduleSteps`).

`TypeScript.stepsByDepth` marks each step of the tree with the depth of the node whose endpoint or
key it is written for.  The object that stands for the root is two levels deep in the module, so a
step with such a mark writes at least two levels deeper than the mark
(`TypeScript.indentation_balanced`).
-/

namespace TypedClient.TypeScript

open Layout (Step Page Balanced WritesFrom opening closing block)

variable (ids : Identifiers)

/-! ## Balanced steps -/

/-- A step and others are balanced if both are. -/
lemma balanced_cons {s : Step} {rest : List Step} (hs : Balanced [s]) (hrest : Balanced rest) :
    Balanced (s :: rest) := hs.append hrest

/-- The lines that put an address together are balanced. -/
lemma balanced_inputSteps (e : Endpoint) : Balanced (inputSteps ids e) := by
  unfold inputSteps
  dsimp only
  refine ((Balanced.line _).append ?_).append ?_
  · cases e.query with
    | none => exact .nil
    | some schema =>
      exact (balanced_cons (.line _) (.line _)).append (.block _ _ (.line _))
  · cases e.body with
    | none => exact .nil
    | some schema => exact .line _

/-- The lines that send a request are balanced. -/
lemma balanced_requestSteps (e : Endpoint) : Balanced (requestSteps e) := by
  have hbody : Balanced (if e.body.isSome then [Step.line "body: JSON.stringify(parsedBody),"]
      else []) := by
    split
    · exact .line _
    · exact .nil
  have hheaders : Balanced headerSteps := .block _ _ (balanced_cons (.line _) (.line _))
  exact .block _ _ (((balanced_cons (.line _) (.line _)).append hheaders).append hbody)

/-- The lines that read an answer are balanced. -/
lemma balanced_answerSteps (e : Endpoint) : Balanced (answerSteps ids e) :=
  ((Balanced.line _).append (.block _ _ (balanced_cons (.line _) (.line _)))).append (.line _)

/-- A call function is balanced. -/
lemma balanced_endpointSteps (key : String) (e : Endpoint) : Balanced (endpointSteps ids key e) :=
  balanced_cons (.line _) (.block _ _
    (((balanced_inputSteps ids e).append (balanced_requestSteps e)).append
      (balanced_answerSteps ids e)))

/-- The call functions of several endpoints are balanced. -/
lemma balanced_endpoints (es : List (String × Endpoint)) :
    Balanced (es.flatMap fun e => endpointSteps ids e.1 e.2) :=
  .flatMap fun e _ => balanced_endpointSteps ids e.1 e.2

/-- The call functions are balanced. -/
lemma balanced_treeSteps (t : RouteTree) : Balanced (treeSteps ids t) := by
  induction t using RouteTree.inductionOn with
  | node es cs ih =>
    have hbelow : Balanced (childSteps ids cs) := by
      induction cs with
      | nil => exact .nil
      | cons c rest ihrest =>
        obtain ⟨hc, hrest⟩ := List.forall_mem_cons.1 ih
        exact (Balanced.block _ _ hc).append (ihrest hrest)
    exact (balanced_endpoints ids es).append hbelow

/-- The declaration of the type of a configuration is balanced. -/
lemma balanced_configSteps : Balanced configSteps := .block _ _ ((Balanced.line _).append (.line _))

/-- What a module says before the function that makes a client. -/
def declarationSteps (blueprint : Blueprint) : List Step :=
  let ids := Identifiers.ofDeclarations blueprint.declarations
  header.map Step.line ++ [Step.blank] ++ helpers.map Step.line ++ [Step.blank] ++
    blueprint.components.map (fun d => Step.line (declarationText ids d)) ++ [Step.blank] ++
    blueprint.components.map (fun d => Step.line (typeText ids d)) ++ [Step.blank] ++
    blueprint.inline.map (fun d => Step.line (declarationText ids d)) ++ [Step.blank] ++
    configSteps ++ [Step.blank]

/-- A module ends with the function that makes a client. -/
lemma moduleSteps_eq_append (blueprint : Blueprint) :
    moduleSteps blueprint = declarationSteps blueprint ++
      factorySteps (.ofDeclarations blueprint.declarations) blueprint.tree := rfl

/-- What a module says before the function that makes a client is balanced. -/
lemma balanced_declarationSteps (blueprint : Blueprint) :
    Balanced (declarationSteps blueprint) := by
  have hlines : ∀ {before : List Step} {α : Type} (text : α → String) (xs : List α),
      Balanced before → Balanced (before ++ xs.map (fun x => Step.line (text x)) ++ [Step.blank]) :=
    fun text xs hbefore => (hbefore.append (.lines text xs)).append .blank
  have hheader : Balanced (header.map Step.line ++ [Step.blank]) :=
    (Balanced.lines _ header).append .blank
  exact ((hlines _ _ (hlines _ _ (hlines _ _ (hlines _ helpers hheader)))).append
    balanced_configSteps).append .blank

/-- A module is balanced. -/
lemma balanced_moduleSteps (blueprint : Blueprint) : Balanced (moduleSteps blueprint) := by
  rw [moduleSteps_eq_append]
  exact (balanced_declarationSteps blueprint).append
    (.block _ _ (.block _ _ (balanced_treeSteps _ blueprint.tree)))

/-! ## The depth of endpoints and keys -/

mutual

/-- The steps of the tree below a node at a depth, each with the depth of the node whose endpoint or
key it is written for. -/
def stepsByDepth (depth : Nat) : RouteTree → List (Nat × Step)
  | .node endpoints children =>
    (endpoints.flatMap fun e => endpointSteps ids e.1 e.2).map (depth, ·) ++
      childStepsByDepth depth children

/-- The steps of the nodes below a node at a depth, each with the depth of the node whose endpoint
or key it is written for. -/
def childStepsByDepth (depth : Nat) : List (String × RouteTree) → List (Nat × Step)
  | [] => []
  | (key, tree) :: rest =>
    (opening (keyText key ++ ": \x7b")).map (depth, ·) ++ stepsByDepth (depth + 1) tree ++
      (closing "\x7d,").map (depth, ·) ++ childStepsByDepth depth rest

end

/-- Steps that are all marked with one depth are those steps. -/
lemma map_snd_map_mk (depth : Nat) (steps : List Step) :
    (steps.map (depth, ·)).map Prod.snd = steps := by
  rw [List.map_map]
  exact List.map_id' steps

/-- Without their marks, the steps are those of the tree. -/
lemma map_snd_stepsByDepth (depth : Nat) (t : RouteTree) :
    (stepsByDepth ids depth t).map Prod.snd = treeSteps ids t := by
  induction t using RouteTree.inductionOn generalizing depth with
  | node es cs ih =>
    have hbelow : (childStepsByDepth ids depth cs).map Prod.snd = childSteps ids cs := by
      induction cs with
      | nil => rfl
      | cons c rest ihrest =>
        obtain ⟨hc, hrest⟩ := List.forall_mem_cons.1 ih
        rw [childStepsByDepth, childSteps, List.map_append, List.map_append, List.map_append,
          map_snd_map_mk, map_snd_map_mk, hc (depth + 1), ihrest hrest, block]
    rw [stepsByDepth, treeSteps, List.map_append, map_snd_map_mk, hbelow]

/-- The steps of a node are among those of the nodes in a row. -/
lemma stepsByDepth_of_mem (depth : Nat) {cs : List (String × RouteTree)} {c : String × RouteTree}
    (h : c ∈ cs) : stepsByDepth ids (depth + 1) c.2 <:+: childStepsByDepth ids depth cs := by
  induction cs with
  | nil => cases h
  | cons first rest ih =>
    obtain ⟨key, tree⟩ := first
    rw [childStepsByDepth]
    rcases List.mem_cons.1 h with rfl | h
    · refine ⟨(opening (keyText key ++ ": \x7b")).map (depth, ·),
        (closing "\x7d,").map (depth, ·) ++ childStepsByDepth ids depth rest, ?_⟩
      rw [← List.append_assoc]
    · exact (ih h).trans (List.suffix_append _ _).isInfix

/-- The marks are lengths of routes: among the steps of a tree, those of the node at a route begin
with the length of the route as their depth. -/
lemma stepsByDepth_of_find? {keys : List String} {t node : RouteTree}
    (h : t.find? keys = some node) (depth : Nat) :
    stepsByDepth ids (depth + keys.length) node <:+: stepsByDepth ids depth t := by
  induction keys generalizing t depth with
  | nil =>
    obtain rfl := Option.some_inj.1 h
    exact List.infix_rfl
  | cons key keys ih =>
    cases t with
    | node es cs =>
      rw [RouteTree.find?_cons, RouteTree.children, Option.bind_eq_some_iff] at h
      obtain ⟨child, hchild, hnode⟩ := h
      have hinner := ih hnode (depth + 1)
      rw [Nat.add_right_comm, Nat.add_assoc] at hinner
      have hbelow := stepsByDepth_of_mem ids depth (Entries.mem_of_get? hchild)
      exact (hinner.trans hbelow).trans (List.suffix_append _ _).isInfix

/-! ## The level of each step -/

/-- Steps with marks, from a page on, find pages that are at least a number of levels deeper than
the marks. -/
def DeeperBy (base : Nat) (page : Page) (marked : List (Nat × Step)) : Prop :=
  ∀ found ∈ page.run Prod.snd marked, found.2.1 + base ≤ found.1.level

variable {base depth : Nat} {page : Page}

/-- Some steps and others find deeper pages if both do. -/
lemma DeeperBy.append {a b : List (Nat × Step)} (ha : DeeperBy base page a)
    (hb : DeeperBy base (page.writeAll (a.map Prod.snd)) b) : DeeperBy base page (a ++ b) := by
  rw [DeeperBy, Page.run_append, List.forall_mem_append]
  exact ⟨ha, hb⟩

/-- Balanced steps, all with the mark of a depth, find pages as deep as the first one. -/
lemma deeperBy_of_balanced {steps : List Step} (hsteps : Balanced steps)
    (h : depth + base ≤ page.level) : DeeperBy base page (steps.map (depth, ·)) := by
  rw [DeeperBy, Page.run_map]
  intro found hfound
  obtain ⟨done, hdone, rfl⟩ := List.mem_map.1 hfound
  exact Nat.le_trans h (hsteps.level_le page done hdone).1

/-- The steps of nodes in a row find deeper pages if those of each node do, one level deeper. -/
lemma deeperBy_childSteps (h : depth + base ≤ page.level) {cs : List (String × RouteTree)}
    (hcs : ∀ c ∈ cs, ∀ page : Page, depth + 1 + base ≤ page.level →
      DeeperBy base page (stepsByDepth ids (depth + 1) c.2)) :
    DeeperBy base page (childStepsByDepth ids depth cs) := by
  induction cs generalizing page with
  | nil => exact List.forall_mem_nil _
  | cons c rest ih =>
    obtain ⟨hc, hrest⟩ := List.forall_mem_cons.1 hcs
    obtain ⟨key, tree⟩ := c
    -- The pages after the line that opens the object of the node, and after what is inside.
    let opened := page.writeAll (opening (keyText key ++ ": \x7b"))
    let inside := opened.writeAll (treeSteps ids tree)
    have hopened : opened.level = page.level + 1 := rfl
    have hinside : inside.level = opened.level :=
      (balanced_treeSteps ids tree).level_writeAll opened
    have hclosed : (inside.writeAll (closing "\x7d,")).level = inside.level - 1 := rfl
    have hopening : DeeperBy base page ((opening (keyText key ++ ": \x7b")).map (depth, ·)) :=
      List.forall_mem_cons.2 ⟨h, List.forall_mem_singleton.2 h⟩
    have htree : DeeperBy base opened (stepsByDepth ids (depth + 1) tree) := hc opened (by omega)
    have hclosing : DeeperBy base inside ((closing "\x7d,").map (depth, ·)) := by
      have hback : depth + base ≤ inside.level := by omega
      have hline : depth + base ≤ inside.level - 1 := by omega
      exact List.forall_mem_cons.2 ⟨hback, List.forall_mem_singleton.2 hline⟩
    have hothers : DeeperBy base (inside.writeAll (closing "\x7d,"))
        (childStepsByDepth ids depth rest) := ih (by omega) hrest
    rw [childStepsByDepth, List.append_assoc, List.append_assoc]
    refine hopening.append ?_
    rw [map_snd_map_mk]
    refine htree.append ?_
    rw [map_snd_stepsByDepth]
    refine hclosing.append ?_
    rwa [map_snd_map_mk]

/-- If a page is a number of levels deeper than a node, then the steps of the tree below find pages
that are at least as many levels deeper than their marks. -/
lemma deeperBy_stepsByDepth (h : depth + base ≤ page.level) (t : RouteTree) :
    DeeperBy base page (stepsByDepth ids depth t) := by
  induction t using RouteTree.inductionOn generalizing depth page with
  | node es cs ih =>
    have hendpoints := balanced_endpoints ids es
    rw [stepsByDepth]
    refine (deeperBy_of_balanced hendpoints h).append (deeperBy_childSteps ids ?_ ?_)
    · rwa [map_snd_map_mk, hendpoints.level_writeAll]
    · exact fun c hc page hpage => ih c hc hpage

/-! ## The indentation of a module -/

/-- What a module says before its tree of routes. -/
def stepsBeforeTree (blueprint : Blueprint) : List Step :=
  declarationSteps blueprint ++
    (opening "export function createClient(config: ClientConfig) \x7b" ++ opening "return \x7b")

/-- What a module says behind its tree of routes. -/
def stepsBehindTree : List Step := closing "\x7d;" ++ closing "\x7d"

/-- How a module is indented. -/
structure WellIndented (blueprint : Blueprint) : Prop where
  /-- No step goes back from level `0`. -/
  aboveZero : ∀ found ∈ Page.run id {} (moduleSteps blueprint),
    found.2 = .dedent → 0 < found.1.level
  /-- The module ends at level `0`. -/
  ends : (Page.writeAll {} (moduleSteps blueprint)).level = 0
  /-- The steps of the tree, which stand between others, write at least two levels deeper than the
  depth of the node whose endpoint or key they are written for. -/
  members : ∃ before behind, ∃ marked : List (Nat × Step),
    marked = stepsByDepth (.ofDeclarations blueprint.declarations) 0 blueprint.tree ∧
    moduleSteps blueprint = before ++ marked.map Prod.snd ++ behind ∧
    ∀ found ∈ Page.run Prod.snd (Page.writeAll {} before) marked,
      WritesFrom (found.2.1 + 2) found.1 found.2.2
  /-- The depth of a node is the length of its route. -/
  depths : ∀ keys node ids, blueprint.tree.find? keys = some node →
    stepsByDepth ids keys.length node <:+: stepsByDepth ids 0 blueprint.tree

/-- The tree is written two levels deep in a module. -/
lemma wellIndented (blueprint : Blueprint) : WellIndented blueprint := by
  have hmodule := balanced_moduleSteps blueprint
  constructor
  case aboveZero => exact fun found hfound => (hmodule.level_le {} found hfound).2
  case ends => exact hmodule.level_writeAll {}
  case members =>
    refine ⟨stepsBeforeTree blueprint, stepsBehindTree, _, rfl, ?_, ?_⟩
    · rw [map_snd_stepsByDepth, moduleSteps_eq_append, factorySteps, stepsBeforeTree,
        stepsBehindTree, block, block]
      simp only [List.append_assoc]
    · intro found hfound
      have hlevel : (Page.writeAll {} (stepsBeforeTree blueprint)).level = 2 := by
        rw [stepsBeforeTree, Page.writeAll_append, Page.level_writeAll,
          (balanced_declarationSteps blueprint).level_writeAll]
        rfl
      have hunit := Page.unit_eq_of_mem_run _ hfound
      rw [Page.unit_writeAll] at hunit
      exact Layout.writesFrom_of_le hunit
        (deeperBy_stepsByDepth _ (Nat.le_of_eq (by rw [hlevel])) _ found hfound) _
  case depths =>
    intro keys node ids hnode
    have hsteps := stepsByDepth_of_find? ids hnode 0
    rwa [Nat.zero_add] at hsteps

/-- The tree of routes and each call function leave the level of a page as they find it.  A module
never goes back from level `0` and ends at level `0`, and its endpoints and keys are written at
least two levels deeper than the depth of their nodes. -/
theorem indentation_balanced :
    (∀ (page : Page) ids t, (page.writeAll (treeSteps ids t)).level = page.level) ∧
      (∀ (page : Page) ids key e, (page.writeAll (endpointSteps ids key e)).level = page.level) ∧
      ∀ blueprint, WellIndented blueprint := by
  refine ⟨fun page ids t => ?_, fun page ids key e => ?_, wellIndented⟩
  · exact (balanced_treeSteps ids t).level_writeAll page
  · exact (balanced_endpointSteps ids key e).level_writeAll page

end TypedClient.TypeScript
