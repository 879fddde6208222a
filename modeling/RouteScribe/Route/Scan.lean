import RouteScribe.Route.Block

/-!
# Scanning a file

A registration is documented as soon as it is met, and its block joins those of its
routing object.  The blocks of an object are then grouped by path.  Objects and paths
stay in the order in which they first occur.
-/

namespace RouteScribe.Route

open RouteScribe.Blueprint RouteScribe.Source

/-- Puts an item into the group of its key; a new key comes last. -/
def addTo {κ α : Type} [DecidableEq κ] (key : κ) (item : α) :
    List (κ × List α) → List (κ × List α)
  | [] => [(key, [item])]
  | (other, items) :: groups =>
      if other = key then (other, items ++ [item]) :: groups
      else (other, items) :: addTo key item groups

/-- Items by key, with keys in order of first occurrence and items in order. -/
def gather {κ α : Type} [DecidableEq κ] (pairs : List (κ × α)) : List (κ × List α) :=
  pairs.foldl (fun groups (key, item) => addTo key item groups) []

def groupByPath (blocks : List Block) : List Group :=
  (gather (blocks.map fun block => (block.path, block))).map fun (path, methods) =>
    { path, methods }

/-- The documentation of a routing object from its declaration's comment. -/
def routerOf (context : Context) (binding : Binding) (routes : List Group) :
    Reported ScanError Router :=
  match binding.declaration.bind (commentOf context.file) with
  | none => return { path := "/", title := "", description := none, routes }
  | some (line, comment) =>
      match comment.tagsOf "route" with
      | _ :: second :: _ => do
          context.reportError (line + second.line) "Error: Too many @route tags."
          .fail (.fatal (.severalRoutes binding.name context.file.path.text))
      | tags =>
          return {
            path := ((tags.head?.map (·.name)).bind nonEmpty?).getD "/"
            title := comment.title
            description := nonEmpty? comment.description
            routes }

/-- The blocks of a file so far, by the routing objects they belong to. -/
abbrev Routes := Reported ScanError (List (Binding × List Block))

/-- Documents each registration when it is met. -/
def collector (context : Context) : Observer Routes where
  types := context.config.routerTypes
  observe sighting routes := do
    let blocks ← routes
    match ← documentSighting context sighting with
    | some block => return addTo sighting.binding block blocks
    | none => return blocks

/-- The routing objects of a file with their documented routes. -/
def scan (context : Context) : Reported ScanError (List Router) := do
  let blocks ← (walkStmts (collector context) context.file.module (.initial (pure []))).seen
  Reported.forEach (fun (binding, blocks) => routerOf context binding (groupByPath blocks)) blocks

def routeCount (routers : List Router) : Nat :=
  (routers.flatMap fun router => router.routes.flatMap Group.methods).length

end RouteScribe.Route
