import RouteScribe.Proofs.Route.Gathering
import RouteScribe.Proofs.Route.Report
import RouteScribe.Proofs.Route.Simulation

/-!
# A scan in two phases

A scan documents each registration in the middle of its walk.  It could as well find
all registrations first, from the syntax tree and the types of routing objects
alone, then document each of them on its own, and group the blocks at the end.  Both
ways report the same diagnostics and have the same outcome.
-/

namespace RouteScribe.Route

open RouteScribe.Blueprint RouteScribe.Comment RouteScribe.Source
open scoped List

/-- Keeps the calls in the order in which they are met. -/
def Observer.listing (types : List String) : Observer (List Sighting) where
  types := types
  observe sighting seen := seen ++ [sighting]

/-- The calls of a program on routing objects, in the order in which they are met. -/
def sightingsIn (types : List String) (module : Module) : List Sighting :=
  (walkStmts (.listing types) module (.initial [])).seen

/-- The blocks of registrations with the routing objects they belong to. -/
def documentAll (context : Context) (sightings : List Sighting) :
    Reported ScanError (List (Binding × Block)) := do
  let blocks ← Reported.forEach (documentSighting context) sightings
  return (sightings.zip blocks).filterMap fun (sighting, block) =>
    block.map (sighting.binding, ·)

/-- The collector goes through the calls that are listed, whatever it makes of
them. -/
theorem collector_simulates (context : Context) :
    (Observer.listing context.config.routerTypes).Simulates
      (fun sightings routes => routes =
        sightings.foldl (fun routes sighting => (collector context).observe sighting routes)
          (pure []))
      (collector context) where
  types := rfl
  observe sighting sightings routes hroutes := by
    simp only [Observer.listing, List.foldl_append, List.foldl_cons, List.foldl_nil, hroutes]

/-- Documents one registration more. -/
theorem documentAll_cons (context : Context) (sighting : Sighting) (sightings : List Sighting) :
    documentAll context (sighting :: sightings) = do
      let block ← documentSighting context sighting
      let pairs ← documentAll context sightings
      return (block.map (sighting.binding, ·)).toList ++ pairs := by
  simp only [documentAll, Reported.forEach, bind_assoc, pure_bind]
  congr 1
  funext block
  congr 1
  funext blocks
  cases block with
  | none => simp
  | some block => simp

/-- Collecting one call after the other is documenting all of them and then adding
their blocks in order. -/
theorem foldl_collector (context : Context) (sightings : List Sighting) (routes : Routes) :
    sightings.foldl (fun routes sighting => (collector context).observe sighting routes) routes =
      (do
        let groups ← routes
        let pairs ← documentAll context sightings
        return pairs.foldl (fun groups (key, item) => addTo key item groups) groups) := by
  induction sightings generalizing routes with
  | nil =>
      have hnone : documentAll context [] = pure [] := rfl
      simp [hnone]
  | cons sighting sightings ih =>
      rw [List.foldl_cons, ih, documentAll_cons]
      simp only [collector, bind_assoc, pure_bind]
      congr 1
      funext groups
      congr 1
      funext block
      cases block with
      | none => simp
      | some block => simp

/-- A scan is a walk that lists the registrations, followed by their documentation. -/
theorem scan_eq_documentAll (context : Context) :
    scan context = (do
      let pairs ← documentAll context
        (sightingsIn context.config.routerTypes context.file.module)
      Reported.forEach
        (fun (binding, blocks) => routerOf context binding (groupByPath blocks))
        (gather pairs)) := by
  have hcollected := walkStmts_seen (collector_simulates context) context.file.module
    [] (pure []) rfl
  rw [foldl_collector] at hcollected
  unfold scan
  rw [hcollected]
  simp only [pure_bind, bind_assoc]
  rfl

/-- The registrations of a program that have a path, in the order in which they are
met.  They depend on the syntax tree and on the types of routing objects alone. -/
def registrations (types : List String) (module : Module) : List Sighting :=
  (sightingsIn types module).filter (·.path.isSome)

def documented (context : Context) (sighting : Sighting) : Option Block :=
  match (documentSighting context sighting).result with
  | .ok block => block
  | .error _ => none

/-- The blocks of registrations, each with the routing object it belongs to. -/
def documentedBlocks (context : Context) (sightings : List Sighting) : List (Binding × Block) :=
  sightings.filterMap fun sighting => (documented context sighting).map (sighting.binding, ·)

theorem documented_of_path_none {context : Context} {sighting : Sighting}
    (hpath : sighting.path = none) : documented context sighting = none := by
  simp only [documented, documentSighting, hpath]
  rfl

/-- Calls without a path have no block, so they do not count. -/
theorem documentedBlocks_filter (context : Context) (sightings : List Sighting) :
    documentedBlocks context (sightings.filter (·.path.isSome)) =
      documentedBlocks context sightings := by
  induction sightings with
  | nil => rfl
  | cons sighting sightings ih =>
      simp only [documentedBlocks] at ih
      cases hpath : sighting.path with
      | none => simp [documentedBlocks, hpath, documented_of_path_none hpath, ih]
      | some path => simp [documentedBlocks, hpath, List.filterMap_cons, ih]

/-- What all registrations are documented with, if none of them fails. -/
theorem documentAll_of_ok {context : Context} {sightings : List Sighting}
    {pairs : List (Binding × Block)} (hpairs : (documentAll context sightings).result = .ok pairs) :
    pairs = documentedBlocks context sightings ∧
      (∀ sighting ∈ sightings, ∃ block, (documentSighting context sighting).result = .ok block) ∧
      (documentAll context sightings).diagnostics =
        sightings.flatMap fun sighting => (documentSighting context sighting).diagnostics := by
  obtain ⟨blocks, hblocks, hpure⟩ := Reported.bind_result_eq_ok hpairs
  obtain ⟨hall, hdiagnostics⟩ := Reported.forEach_of_ok hblocks
  cases hpure
  refine ⟨?_, fun sighting => Reported.exists_ok_of_mem hall, ?_⟩
  · clear hdiagnostics hblocks hpairs
    induction hall with
    | nil => rfl
    | cons hblock hrest ih =>
        simp only [List.zip_cons_cons, List.filterMap_cons, documentedBlocks, documented, hblock]
        simp only [documentedBlocks, documented] at ih
        rw [ih]
  · unfold documentAll
    rw [Reported.bind_of_ok hblocks]
    simp [hdiagnostics]

/-! ## Each registration on its own -/

/-- Contexts that differ at most in the text of their file. -/
structure Context.Alike (left right : Context) : Prop where
  path : left.file.path = right.file.path
  types : left.types = right.types
  config : left.config = right.config

/-- Contexts in which tags come to the same: types have the same schemas, and schemas the
same examples. -/
structure Context.TypedAlike (left right : Context) : Prop where
  path : left.file.path = right.file.path
  schemaOf : left.types.schemaOf = right.types.schemaOf
  payload : Example.payload left.config = Example.payload right.config

namespace Context.TypedAlike

variable {left right : Context} (halike : left.TypedAlike right)

include halike

theorem diagnostic_eq (severity : Severity) (line : Nat) (message : String) :
    left.diagnostic severity line message = right.diagnostic severity line message := by
  simp only [diagnostic, halike.path]

theorem reportError_eq (ε : Type) :
    (left.reportError : Nat → String → Reported ε Unit) = right.reportError := by
  funext line message
  simp only [reportError, halike.diagnostic_eq]

theorem typedOf_eq : typedOf left = typedOf right := by
  funext type line
  unfold typedOf
  rw [halike.schemaOf, halike.payload, halike.reportError_eq]

theorem responseOf_eq (line : Nat) : responseOf left line = responseOf right line := by
  funext tag
  unfold responseOf
  rw [halike.reportError_eq, halike.typedOf_eq]

theorem singleBody_eq (method path : String) (line : Nat) (tags : List Tag) :
    singleBody left method path line tags = singleBody right method path line tags := by
  unfold singleBody bodyOf
  rw [halike.reportError_eq, halike.typedOf_eq, halike.path]

variable (hparam : Example.param left.config = Example.param right.config)

include hparam

theorem blockOf_eq (method path : String) (line : Nat) (comment : DocComment) :
    blockOf left method path line comment = blockOf right method path line comment := by
  have hparamOf : paramOf left.config = paramOf right.config := by
    funext place tag
    simp only [paramOf, hparam]
  unfold blockOf
  rw [hparamOf, halike.responseOf_eq, halike.singleBody_eq]

/-- A registration is documented from its own comment. -/
theorem documentSighting_eq {sighting : Sighting}
    (hcomment : commentOf left.file sighting.start = commentOf right.file sighting.start) :
    documentSighting left sighting = documentSighting right sighting := by
  unfold documentSighting documentRoute
  rw [hcomment]
  simp only [halike.diagnostic_eq, halike.blockOf_eq hparam]

/-- A scan sees types through their schemas, and the config through the examples and the
types of routing objects. -/
theorem scan_eq (hfile : left.file = right.file)
    (hrouters : left.config.routerTypes = right.config.routerTypes) : scan left = scan right := by
  have hdocument : documentSighting left = documentSighting right := by
    funext sighting
    apply halike.documentSighting_eq hparam
    rw [hfile]
  have hrouterOf : routerOf left = routerOf right := by
    funext binding routes
    unfold routerOf
    rw [halike.reportError_eq, hfile]
  unfold scan collector
  rw [hdocument, hrouterOf, hfile, hrouters]

end Context.TypedAlike

theorem Context.Alike.typed {left right : Context} (halike : left.Alike right) :
    left.TypedAlike right where
  path := halike.path
  schemaOf := by rw [halike.types]
  payload := by rw [halike.config]

theorem Context.Alike.documentSighting_eq {left right : Context} (halike : left.Alike right)
    {sighting : Sighting}
    (hcomment : commentOf left.file sighting.start = commentOf right.file sighting.start) :
    documentSighting left sighting = documentSighting right sighting :=
  halike.typed.documentSighting_eq (by rw [halike.config]) hcomment

/-! ## Routers and groups -/

/-- Blocks by path: every path once, in the order of its first block, with its blocks in
order. -/
def groupsOf (blocks : List Block) : List Group :=
  (blocks.map Block.path).eraseDups.map fun path =>
    { path, methods := blocks.filter (·.path = path) }

theorem groupByPath_eq_groupsOf (blocks : List Block) : groupByPath blocks = groupsOf blocks := by
  have hitems (path : String) :
      itemsOf (blocks.map fun block => (block.path, block)) path =
        blocks.filter (·.path = path) := by
    simp [itemsOf, List.filter_map, Function.comp_def]
  rw [groupByPath, gather_eq, groupsOf, List.map_map, List.map_map]
  refine List.map_congr_left fun path _ => ?_
  simp only [Function.comp_apply, hitems]

theorem groupsOf_paths (blocks : List Block) :
    (groupsOf blocks).map Group.path = (blocks.map Block.path).eraseDups := by
  simp [groupsOf, Function.comp_def]

theorem methods_ne_nil {blocks : List Block} {group : Group} (hgroup : group ∈ groupsOf blocks) :
    group.methods ≠ [] := by
  obtain ⟨path, hpath, rfl⟩ := List.mem_map.mp hgroup
  obtain ⟨block, hblock, rfl⟩ := List.mem_map.mp (List.mem_eraseDups.mp hpath)
  exact List.ne_nil_of_mem (List.mem_filter.mpr ⟨hblock, by simp⟩)

theorem groupsOf_ne_nil {blocks : List Block} (hblocks : blocks ≠ []) : groupsOf blocks ≠ [] := by
  obtain ⟨block, hblock⟩ := List.exists_mem_of_ne_nil blocks hblocks
  have hpath : block.path ∈ (groupsOf blocks).map Group.path := by
    rw [groupsOf_paths, List.mem_eraseDups]
    exact List.mem_map_of_mem hblock
  intro hnil
  simp [hnil] at hpath

/-- The groups hold every block once. -/
theorem perm_groupsOf (blocks : List Block) :
    ((groupsOf blocks).flatMap Group.methods).Perm blocks := by
  have hperm := perm_gather (blocks.map fun block => (block.path, block))
  rw [← groupByPath_eq_groupsOf, groupByPath, List.flatMap_map]
  simpa [Function.comp_def] using hperm

/-- The documentation of a routing object takes its routes as they are, and reports
nothing unless it fails. -/
theorem routerOf_of_ok {context : Context} {binding : Binding} {routes : List Group}
    {router : Router} (hrouter : (routerOf context binding routes).result = .ok router) :
    router.routes = routes ∧ (routerOf context binding routes).diagnostics = [] := by
  unfold routerOf at hrouter ⊢
  split at hrouter
  · cases hrouter
    exact ⟨rfl, rfl⟩
  · split at hrouter
    · cases hrouter
    · cases hrouter
      exact ⟨rfl, rfl⟩

/-- How routers are put together from blocks and the routing objects they belong
to. -/
structure Assembled (context : Context) (blocks : List (Binding × Block))
    (routers : List Router) : Prop where
  /-- Every object with a block has one router, in the order of the first blocks, which
  holds the blocks of the object by path. -/
  routers_eq : List.Forall₂
    (fun binding router =>
      (routerOf context binding (groupsOf (itemsOf blocks binding))).result = .ok router)
    (blocks.map Prod.fst).eraseDups routers
  routes_eq : routers.map Router.routes =
    (blocks.map Prod.fst).eraseDups.map fun binding => groupsOf (itemsOf blocks binding)
  /-- No block is lost and none is there twice. -/
  blocks_perm : (routers.flatMap fun router => router.routes.flatMap Group.methods).Perm
    (blocks.map Prod.snd)
  objects_nodup : (blocks.map Prod.fst).eraseDups.Nodup
  paths_nodup : ∀ router ∈ routers, (router.routes.map Group.path).Nodup
  path_eq : ∀ router ∈ routers, ∀ group ∈ router.routes, ∀ block ∈ group.methods,
    block.path = group.path
  routes_ne_nil : ∀ router ∈ routers, router.routes ≠ []
  methods_ne_nil : ∀ router ∈ routers, ∀ group ∈ router.routes, group.methods ≠ []

/-- Routers that are documented one by one hold the routes they are given. -/
theorem routes_of_routers {context : Context} {routesOf : Binding → List Group}
    {objects : List Binding} {routers : List Router}
    (hrouters : List.Forall₂
      (fun binding router => (routerOf context binding (routesOf binding)).result = .ok router)
      objects routers) :
    routers.map Router.routes = objects.map routesOf := by
  induction hrouters with
  | nil => rfl
  | cons hrouter _ ih => simp only [List.map_cons, ih, (routerOf_of_ok hrouter).1]

/-- Grouping by object and then by path keeps every block once. -/
theorem perm_routes (blocks : List (Binding × Block)) :
    ((blocks.map Prod.fst).eraseDups.flatMap fun binding =>
        (groupsOf (itemsOf blocks binding)).flatMap Group.methods).Perm
      (blocks.map Prod.snd) := by
  calc ((blocks.map Prod.fst).eraseDups.flatMap fun binding =>
        (groupsOf (itemsOf blocks binding)).flatMap Group.methods)
      ~ (blocks.map Prod.fst).eraseDups.flatMap fun binding => itemsOf blocks binding :=
        List.Perm.flatMap_left _ fun binding _ => perm_groupsOf _
    _ = (gather blocks).flatMap Prod.snd := by
        rw [gather_eq, List.flatMap_map]
    _ ~ blocks.map Prod.snd := perm_gather blocks

/-- Routers that are documented one by one from gathered blocks are put together as
`Assembled` says. -/
theorem assembled_of_routers {context : Context} {blocks : List (Binding × Block)}
    {routers : List Router}
    (hrouters : List.Forall₂
      (fun binding router =>
        (routerOf context binding (groupsOf (itemsOf blocks binding))).result = .ok router)
      (blocks.map Prod.fst).eraseDups routers) :
    Assembled context blocks routers := by
  have hroutes := routes_of_routers hrouters
  have hrouter : ∀ router ∈ routers, ∃ binding ∈ blocks.map Prod.fst,
      router.routes = groupsOf (itemsOf blocks binding) := by
    intro router hmem
    have hmap : router.routes ∈ routers.map Router.routes := List.mem_map_of_mem hmem
    rw [hroutes] at hmap
    obtain ⟨binding, hbinding, heq⟩ := List.mem_map.mp hmap
    exact ⟨binding, List.mem_eraseDups.mp hbinding, heq.symm⟩
  have hperm : (routers.flatMap fun router => router.routes.flatMap Group.methods).Perm
      (blocks.map Prod.snd) := by
    have hflat := perm_routes blocks
    rw [← List.flatMap_map, ← hroutes, List.flatMap_map] at hflat
    exact hflat
  exact {
    routers_eq := hrouters
    routes_eq := hroutes
    blocks_perm := hperm
    objects_nodup := nodup_eraseDups _
    paths_nodup := by
      intro router hmem
      obtain ⟨binding, -, heq⟩ := hrouter router hmem
      rw [heq, groupsOf_paths]
      exact nodup_eraseDups _
    path_eq := by
      intro router hmem group hgroup block hblock
      obtain ⟨binding, -, heq⟩ := hrouter router hmem
      rw [heq] at hgroup
      obtain ⟨path, -, rfl⟩ := List.mem_map.mp hgroup
      simpa using (List.mem_filter.mp hblock).2
    routes_ne_nil := by
      intro router hmem
      obtain ⟨binding, hbinding, heq⟩ := hrouter router hmem
      rw [heq]
      exact groupsOf_ne_nil (itemsOf_ne_nil hbinding)
    methods_ne_nil := by
      intro router hmem group hgroup
      obtain ⟨binding, -, heq⟩ := hrouter router hmem
      rw [heq] at hgroup
      exact Route.methods_ne_nil hgroup }

/-- Contexts of the same program in which at most the comment in front of one of the
given registrations differs. -/
structure Context.DifferAt (left right : Context) (sightings : List Sighting) (index : Nat) :
    Prop where
  alike : left.Alike right
  module : left.file.module = right.file.module
  comments : ∀ other sighting, other ≠ index → sightings[other]? = some sighting →
    commentOf left.file sighting.start = commentOf right.file sighting.start

/-- The block of another registration does not change with the comment of one. -/
theorem Context.DifferAt.documented_eq {left right : Context} {sightings : List Sighting}
    {index : Nat} (hdiffer : left.DifferAt right sightings index) {sighting : Sighting}
    (hsighting : sighting ∈ sightings.eraseIdx index) :
    documented right sighting = documented left sighting := by
  obtain ⟨other, hother, hne⟩ := List.mem_eraseIdx_iff_getElem?.mp hsighting
  simp only [documented, hdiffer.alike.documentSighting_eq (hdiffer.comments other _ hother hne)]

/-- The blocks of registrations without one of them stay in their order. -/
theorem documentedBlocks_eraseIdx (context : Context) (sightings : List Sighting)
    (index : Nat) :
    (documentedBlocks context (sightings.eraseIdx index)).Sublist
      (documentedBlocks context sightings) :=
  (List.eraseIdx_sublist sightings index).filterMap _

theorem documentedBlocks_congr {left right : Context} {sightings : List Sighting}
    (hdocumented : ∀ sighting ∈ sightings, documented right sighting = documented left sighting) :
    documentedBlocks right sightings = documentedBlocks left sightings := by
  refine List.filterMap_congr fun sighting hsighting => ?_
  rw [hdocumented sighting hsighting]

/-- The parts of a scan without an error.  Only the documentation of registrations
reports anything. -/
theorem scan_of_ok {context : Context} {routers : List Router}
    (hscan : (scan context).result = .ok routers) :
    let sightings := sightingsIn context.config.routerTypes context.file.module
    Assembled context (documentedBlocks context sightings) routers ∧
      (∀ sighting ∈ sightings, ∃ block, (documentSighting context sighting).result = .ok block) ∧
      (scan context).diagnostics =
        sightings.flatMap fun sighting => (documentSighting context sighting).diagnostics := by
  intro sightings
  rw [scan_eq_documentAll] at hscan
  obtain ⟨pairs, hpairs, hrouters⟩ := Reported.bind_result_eq_ok hscan
  obtain ⟨rfl, hblocks, hdiagnostics⟩ := documentAll_of_ok hpairs
  obtain ⟨hall, hquiet⟩ := Reported.forEach_of_ok hrouters
  refine ⟨assembled_of_routers ?_, hblocks, ?_⟩
  · rw [gather_eq, List.forall₂_map_left_iff] at hall
    simpa only [groupByPath_eq_groupsOf] using hall
  · have hnothing : ∀ item ∈ gather (documentedBlocks context sightings),
        (routerOf context item.1 (groupByPath item.2)).diagnostics = [] := by
      intro item hitem
      obtain ⟨router, hrouter⟩ := Reported.exists_ok_of_mem hall hitem
      exact (routerOf_of_ok hrouter).2
    rw [scan_eq_documentAll, Reported.bind_of_ok hpairs]
    dsimp only
    rw [hdiagnostics, hquiet, List.flatMap_eq_nil_iff.mpr hnothing, List.append_nil]

/-! ## A sample program

The theorems about a scan are applied to this program below. -/

/-- Tokens of one line that follow each other without a gap. -/
def tokensFrom (line : Nat) : Nat → List (TokenKind × Nat) → List Token
  | _, [] => []
  | column, (kind, width) :: kinds =>
      ⟨kind, ⟨line, column⟩, ⟨line, column + width⟩, column⟩ ::
        tokensFrom line (column + width) kinds

/-- A program with two routing objects and five registrations.  One path is registered
three times, one registration has no literal path, and the third response type is no
expression.  The tag in line six is left open. -/
def sampleContext (tagLine : String) : Context :=
  let word (name : String) : TokenKind × Nat := (.name name, name.length)
  let symbol (name : String) : TokenKind × Nat := (.symbol name, name.length)
  let quoted (text : String) : TokenKind × Nat :=
    (.string ⟨false, false, false, false, 1, text.toList⟩, text.length + 2)
  let object (line : Nat) (name : String) : Stmt :=
    .assign ⟨line, 0⟩ [.name name] (.call ⟨line, name.length + 3⟩ (.name "Router") [] [])
  let objectTokens (line : Nat) (name : String) : List Token :=
    tokensFrom line 0 [word name] ++ tokensFrom line (name.length + 1) [symbol "="] ++
      tokensFrom line (name.length + 3) [word "Router", symbol "(", symbol ")"]
  let call (line : Nat) (receiver method : String) (argument : Expr) : Stmt :=
    .expression (.call ⟨line, 0⟩ (.attribute (.name receiver) method) [argument] [])
  let callTokens (line : Nat) (receiver method : String) (argument : TokenKind × Nat) :=
    tokensFrom line 0
      [word receiver, symbol ".", word method, symbol "(", argument, symbol ")"]
  { file := {
      path := ⟨"", ["app.py"]⟩
      lines := [
        "api = Router()",
        "admin = Router()",
        "# List users",
        "api.get(\"/users\")",
        "# Add a user",
        tagLine,
        "api.post(\"/users\")",
        "# Log in",
        "# @response {)} 200",
        "admin.post(\"/login\")",
        "# Clear users",
        "api.delete(\"/users\")",
        "api.put(path)"]
      module := [
        object 1 "api",
        object 2 "admin",
        call 4 "api" "get" (.literal (.str "/users" false)),
        call 7 "api" "post" (.literal (.str "/users" false)),
        call 10 "admin" "post" (.literal (.str "/login" false)),
        call 12 "api" "delete" (.literal (.str "/users" false)),
        call 13 "api" "put" (.name "path")]
      comments := [
        ⟨⟨3, 0⟩, "# List users"⟩,
        ⟨⟨5, 0⟩, "# Add a user"⟩,
        ⟨⟨6, 0⟩, tagLine⟩,
        ⟨⟨8, 0⟩, "# Log in"⟩,
        ⟨⟨9, 0⟩, "# @response {)} 200"⟩,
        ⟨⟨11, 0⟩, "# Clear users"⟩]
      code :=
        objectTokens 1 "api" ++ objectTokens 2 "admin" ++
          callTokens 4 "api" "get" (quoted "/users") ++
          callTokens 7 "api" "post" (quoted "/users") ++
          callTokens 10 "admin" "post" (quoted "/login") ++
          callTokens 12 "api" "delete" (quoted "/users") ++
          callTokens 13 "api" "put" (word "path") }
    types := .empty
    config := { output := "api.apib" } }

/-- The routers of the sample program if its open tag is malformed. -/
def sampleRouters : List Router :=
  let block (method path title : String) : Block :=
    { method, path, title, description := "", params := [], responses := [], body := none }
  [{ path := "/"
     title := ""
     description := none
     routes := [{
       path := "/users"
       methods := [
         block "get" "/users" "List users", block "delete" "/users" "Clear users"] }] },
   { path := "/"
     title := ""
     description := none
     routes := [{ path := "/login", methods := [block "post" "/login" "Log in"] }] }]

theorem scan_sampleContext :
    (scan (sampleContext "# @response ok")).result = .ok sampleRouters := rfl

/-- The open tag belongs to the second registration. -/
theorem sampleContext_differAt :
    (sampleContext "# @response ok").DifferAt (sampleContext "# @response 204")
      (registrations ["Router"] (sampleContext "# @response ok").file.module) 1 where
  alike := ⟨rfl, rfl, rfl⟩
  module := rfl
  comments other sighting hother hsighting := by
    match other, hother, hsighting with
    | 0, _, rfl => rfl
    | 2, _, rfl => rfl
    | 3, _, rfl => rfl

/-- What a scan without an error finds: the registrations are found first, each is
documented on its own, and the blocks are put together in the end.  A change in the
comment of one registration does not change the blocks of the others, which are in the
same order before and after it. -/
theorem scan_in_two_phases {context : Context} {routers : List Router}
    (hscan : (scan context).result = .ok routers) :
    let sightings := registrations context.config.routerTypes context.file.module
    Assembled context (documentedBlocks context sightings) routers ∧
      ∀ other index, context.DifferAt other sightings index →
        let rest := sightings.eraseIdx index
        registrations other.config.routerTypes other.file.module = sightings ∧
          (∀ sighting ∈ rest, documented other sighting = documented context sighting) ∧
          (documentedBlocks context rest).Sublist (documentedBlocks context sightings) ∧
          (documentedBlocks context rest).Sublist (documentedBlocks other sightings) := by
  intro sightings
  constructor
  · have hblocks : documentedBlocks context sightings = documentedBlocks context
        (sightingsIn context.config.routerTypes context.file.module) :=
      documentedBlocks_filter context _
    rw [hblocks]
    exact (scan_of_ok hscan).1
  · intro other index hdiffer rest
    have hdocumented : ∀ sighting ∈ rest, documented other sighting = documented context sighting :=
      fun _ => hdiffer.documented_eq
    refine ⟨?_, hdocumented, documentedBlocks_eraseIdx context sightings index, ?_⟩
    · rw [← hdiffer.alike.config, ← hdiffer.module]
    · rw [← documentedBlocks_congr hdocumented]
      exact documentedBlocks_eraseIdx other sightings index

theorem scan_in_two_phases_sample :
    let sightings := registrations ["Router"] (sampleContext "# @response ok").file.module
    (scan (sampleContext "# @response ok")).result = .ok sampleRouters ∧
      Assembled (sampleContext "# @response ok")
        (documentedBlocks (sampleContext "# @response ok") sightings) sampleRouters ∧
      ∀ sighting ∈ sightings.eraseIdx 1,
        documented (sampleContext "# @response 204") sighting =
          documented (sampleContext "# @response ok") sighting :=
  have hphases := scan_in_two_phases scan_sampleContext
  ⟨scan_sampleContext, hphases.1, (hphases.2 _ 1 sampleContext_differAt).2.1⟩

end RouteScribe.Route
