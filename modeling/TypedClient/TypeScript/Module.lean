import TypedClient.Blueprint
import TypedClient.Layout.Tidy
import TypedClient.TypeScript.Client
import TypedClient.TypeScript.Preamble

/-!
# Client modules

The TypeScript module of a blueprint: the fixed part, the validators of the named schemas and their
types, the validators of single operations, and the function that makes a client.
-/

namespace TypedClient.TypeScript

open Layout (Step block)

/-- The name of the kind of module. -/
def targetName : String := "typescript-zod"

/-- What the name of a file with such a module ends in, behind the point. -/
def fileExtension : String := "ts"

/-- The declaration of the type of a configuration. -/
def configSteps : List Step :=
  block "export type ClientConfig = \x7b" [.line "accessToken: string;", .line "apiUrl: string;"]
    "\x7d;"

/-- The function that makes a client. -/
def factorySteps (ids : Identifiers) (tree : RouteTree) : List Step :=
  block "export function createClient(config: ClientConfig) \x7b"
    (block "return \x7b" (treeSteps ids tree) "\x7d;") "\x7d"

/-- The module of a blueprint, step by step. -/
def moduleSteps (blueprint : Blueprint) : List Step :=
  let ids := Identifiers.ofDeclarations blueprint.declarations
  header.map .line ++ [.blank] ++ helpers.map .line ++ [.blank] ++
    blueprint.components.map (fun d => .line (declarationText ids d)) ++ [.blank] ++
    blueprint.components.map (fun d => .line (typeText ids d)) ++ [.blank] ++
    blueprint.inline.map (fun d => .line (declarationText ids d)) ++ [.blank] ++
    configSteps ++ [.blank] ++ factorySteps ids blueprint.tree

/-- The text of the module of a blueprint. -/
def render (blueprint : Blueprint) : String := Layout.render (moduleSteps blueprint)

end TypedClient.TypeScript
