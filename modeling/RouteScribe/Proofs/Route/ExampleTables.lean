import RouteScribe.Proofs.Route.Outcome

/-!
# Examples by name stay where they belong

A config has one table of examples for parameters and one for payloads.  The first is
seen in the examples of parameters and nowhere else.  The second decides which tags can
be kept, but not which registrations have a block, and nothing of a block but its
responses and its body.

Both facts compare two scans block by block.  Grouping looks at the paths of blocks
alone, so whatever holds of blocks apart from some of their parts holds of routers.
-/

namespace RouteScribe.Blueprint

def Group.mapBlocks (change : Block → Block) (group : Group) : Group :=
  { group with methods := group.methods.map change }

def Router.mapBlocks (change : Block → Block) (router : Router) : Router :=
  { router with routes := router.routes.map (Group.mapBlocks change) }

/-- A block without the examples of its parameters. -/
def Block.withoutSamples (block : Block) : Block :=
  { block with params := block.params.map fun param => { param with sample := "" } }

/-- A block without its responses and its body. -/
def Block.withoutPayloads (block : Block) : Block :=
  { block with responses := [], body := none }

theorem Block.path_withoutSamples (block : Block) : block.withoutSamples.path = block.path := rfl

theorem Block.path_withoutPayloads (block : Block) : block.withoutPayloads.path = block.path := rfl

end RouteScribe.Blueprint

namespace RouteScribe.Route

open RouteScribe.Blueprint RouteScribe.Comment RouteScribe.Json RouteScribe.Source
open RouteScribe.Text

/-! ### Routers from changed blocks -/

/-- The routers of blocks with the routing objects they belong to. -/
def assemble (context : Context) (pairs : List (Binding × Block)) :
    Reported ScanError (List Router) :=
  Reported.forEach (fun group => routerOf context group.1 (groupByPath group.2)) (gather pairs)

theorem scan_eq_assemble (context : Context) :
    scan context =
      documentAll context (sightingsIn context.config.routerTypes context.file.module) >>=
        assemble context :=
  scan_eq_documentAll context

section Change

variable {change : Block → Block} (hpath : ∀ block, (change block).path = block.path)

include hpath

theorem groupByPath_map (blocks : List Block) :
    groupByPath (blocks.map change) = (groupByPath blocks).map (Group.mapBlocks change) := by
  have hpairs : (blocks.map change).map (fun block => (block.path, block)) =
      (blocks.map fun block => (block.path, block)).map (Prod.map id change) := by
    simp only [List.map_map, Function.comp_def, Prod.map_apply, id_eq, hpath]
  rw [groupByPath, hpairs, gather_map_item, groupByPath, List.map_map, List.map_map]
  rfl

omit hpath in
/-- A change of blocks may be made before or after they are put under a router. -/
theorem routerOf_map (context : Context) (binding : Binding) (routes : List Group) :
    Router.mapBlocks change <$> routerOf context binding routes =
      routerOf context binding (routes.map (Group.mapBlocks change)) := by
  unfold routerOf
  cases binding.declaration.bind (commentOf context.file) with
  | none => rfl
  | some found =>
      dsimp only
      cases found.2.tagsOf "route" with
      | nil => rfl
      | cons first others => cases others <;> rfl

/-- Blocks may as well be changed before they are grouped. -/
theorem assemble_map (context : Context) (pairs : List (Binding × Block)) :
    List.map (Router.mapBlocks change) <$> assemble context pairs =
      assemble context (pairs.map (Prod.map id change)) := by
  rw [assemble, assemble, gather_map_item, Reported.map_forEach, Reported.forEach_map]
  congr 1
  funext group
  rw [routerOf_map, ← groupByPath_map hpath]
  rfl

/-- A scan up to a change of blocks goes by the changed blocks of registrations. -/
theorem map_scan (context : Context) :
    List.map (Router.mapBlocks change) <$> scan context =
      (List.map (Prod.map id change) <$>
          documentAll context (sightingsIn context.config.routerTypes context.file.module)) >>=
        assemble context := by
  rw [scan_eq_assemble, map_bind, bind_map_left]
  congr 1
  funext pairs
  exact assemble_map hpath context pairs

end Change

/-! ### Examples of parameters -/

def Context.withParamExamples (context : Context) (table : Table Value) : Context :=
  { context with
    config := { context.config with
      examples := { context.config.examples with param := table } } }

/-- A block as the result of a registration. -/
def settle (documented : Documenting Block) : Reported ScanError (Option Block) where
  diagnostics := documented.diagnostics
  result :=
    match documented.result with
    | .ok block => .ok (some block)
    | .error .leftOut => .ok none
    | .error (.failed error) => .error error

theorem map_settle (change : Block → Block) (documented : Documenting Block) :
    Option.map change <$> settle documented = settle (change <$> documented) := by
  ext1
  · simp only [settle, Reported.map_diagnostics]
  · simp only [settle, Reported.map_result]
    cases documented.result with
    | ok block => rfl
    | error stop => cases stop <;> rfl

theorem documentSighting_of_comment {context : Context} {sighting : Sighting} {path : String}
    {line : Nat} {comment : DocComment} (hpath : sighting.path = some path)
    (hcomment : commentOf context.file sighting.start = some (line, comment)) :
    documentSighting context sighting =
      settle (blockOf context sighting.method path line comment) := by
  simp only [documentSighting, hpath, documentRoute, hcomment]
  rfl

/-- Where types come to the same, blocks differ in the examples of parameters at most. -/
theorem Context.TypedAlike.blockOf_withoutSamples {left right : Context}
    (halike : left.TypedAlike right) (method path : String) (line : Nat) (comment : DocComment) :
    Block.withoutSamples <$> blockOf left method path line comment =
      Block.withoutSamples <$> blockOf right method path line comment := by
  unfold blockOf
  simp only [map_bind, map_pure, halike.responseOf_eq, halike.singleBody_eq,
    Block.withoutSamples, List.map_append, List.map_map]
  rfl

/-- Contexts that differ in their examples document alike up to the samples. -/
theorem Context.TypedAlike.documentSighting_withoutSamples {left right : Context}
    (halike : left.TypedAlike right) (hfile : left.file = right.file) (sighting : Sighting) :
    Option.map Block.withoutSamples <$> documentSighting left sighting =
      Option.map Block.withoutSamples <$> documentSighting right sighting := by
  cases hpath : sighting.path with
  | none => simp only [documentSighting, hpath, halike.diagnostic_eq]
  | some path =>
      cases hcomment : commentOf right.file sighting.start with
      | none =>
          simp only [documentSighting, hpath, documentRoute, hfile, hcomment,
            halike.diagnostic_eq]
      | some found =>
          obtain ⟨line, comment⟩ := found
          have hleft : commentOf left.file sighting.start = some (line, comment) := by
            rw [hfile, hcomment]
          calc Option.map Block.withoutSamples <$> documentSighting left sighting
              = settle (Block.withoutSamples <$>
                  blockOf left sighting.method path line comment) := by
                rw [documentSighting_of_comment hpath hleft, map_settle]
            _ = settle (Block.withoutSamples <$>
                  blockOf right sighting.method path line comment) := by
                rw [halike.blockOf_withoutSamples]
            _ = Option.map Block.withoutSamples <$> documentSighting right sighting := by
                rw [documentSighting_of_comment hpath hcomment, map_settle]

/-- A change of blocks goes through the sightings one by one. -/
theorem map_documentAll_cons (change : Block → Block) (context : Context) (sighting : Sighting)
    (sightings : List Sighting) :
    List.map (Prod.map id change) <$> documentAll context (sighting :: sightings) = (do
      let block ← Option.map change <$> documentSighting context sighting
      let pairs ← List.map (Prod.map id change) <$> documentAll context sightings
      return (block.map (sighting.binding, ·)).toList ++ pairs) := by
  simp only [documentAll_cons, map_bind, bind_map_left, map_pure, List.map_append]
  congr 1
  funext block
  congr 1
  funext pairs
  cases block <;> rfl

/-- Registrations that are documented alike one by one are documented alike. -/
theorem map_documentAll_congr {change : Block → Block} {left right : Context}
    (hsighting : ∀ sighting, Option.map change <$> documentSighting left sighting =
      Option.map change <$> documentSighting right sighting) (sightings : List Sighting) :
    List.map (Prod.map id change) <$> documentAll left sightings =
      List.map (Prod.map id change) <$> documentAll right sightings := by
  induction sightings with
  | nil => rfl
  | cons sighting sightings ih =>
      rw [map_documentAll_cons, map_documentAll_cons, hsighting, ih]

theorem scan_withParamExamples (context : Context) (table : Table Value) :
    List.map (Router.mapBlocks Block.withoutSamples) <$> scan (context.withParamExamples table) =
      List.map (Router.mapBlocks Block.withoutSamples) <$> scan context := by
  have halike : (context.withParamExamples table).TypedAlike context := ⟨rfl, rfl, rfl⟩
  rw [map_scan Block.path_withoutSamples, map_scan Block.path_withoutSamples,
    map_documentAll_congr (halike.documentSighting_withoutSamples rfl)]
  rfl

/-! ### Examples of payloads -/

def Context.withResponseExamples (context : Context) (table : Table Value) : Context :=
  { context with
    config := { context.config with
      examples := { context.config.examples with response := table } } }

/-- Whether the codes of responses are digits and the types of bodies are in braces. -/
def hasGoodTags (comment : DocComment) : Bool :=
  (comment.tagsOf "response").all (fun tag => isDigits tag.name.toList) &&
    (comment.tagsOf "body").all (fun tag => (bodyTypes? tag).isSome)

/-- What a comment says about a route beside its responses and its body. -/
def outline (config : Config) (method path : String) (comment : DocComment) : Block where
  method := method
  path := path
  title := comment.title
  description := comment.description
  params := (comment.tagsOf "param").map (paramOf config .path) ++
    (comment.tagsOf "query").map (paramOf config .query)
  responses := []
  body := none

theorem isDigits_of_responseOf {context : Context} {line : Nat} {tag : Tag}
    {response : Option Response} (hresponse : (responseOf context line tag).result = .ok response) :
    isDigits tag.name.toList = true := by
  by_contra hdigits
  rw [Bool.not_eq_true] at hdigits
  simp only [responseOf, hdigits, Bool.not_false, if_true] at hresponse
  cases hresponse

theorem isSome_of_bodyOf {context : Context} {line : Nat} {tag : Tag} {body : Option RequestBody}
    (hbody : (bodyOf context line tag).result = .ok body) : (bodyTypes? tag).isSome = true := by
  by_contra htypes
  rw [Option.not_isSome_iff_eq_none] at htypes
  simp only [bodyOf, htypes] at hbody
  cases hbody

/-- A block that is made has good tags only and is the outline of its comment, up to payloads.
-/
theorem blockOf_of_ok {context : Context} {method path : String} {line : Nat}
    {comment : DocComment} {block : Block}
    (hblock : (blockOf context method path line comment).result = .ok block) :
    hasGoodTags comment = true ∧
      block.withoutPayloads = outline context.config method path comment := by
  unfold blockOf at hblock
  obtain ⟨responses, hresponses, hrest⟩ := Reported.bind_result_eq_ok hblock
  obtain ⟨body, hbody, hpure⟩ := Reported.bind_result_eq_ok hrest
  cases hpure
  have hcodes : ∀ tag ∈ comment.tagsOf "response", isDigits tag.name.toList = true := by
    intro tag htag
    obtain ⟨response, hresponse⟩ :=
      Reported.exists_ok_of_mem (Reported.forEach_of_ok hresponses).1 htag
    exact isDigits_of_responseOf hresponse
  -- With a second body tag there would be no block.
  have hbraces : ∀ tag ∈ comment.tagsOf "body", (bodyTypes? tag).isSome = true := by
    generalize comment.tagsOf "body" = tags at hbody
    match tags with
    | [] => exact List.forall_mem_nil _
    | [tag] => exact List.forall_mem_singleton.mpr (isSome_of_bodyOf hbody)
    | _ :: _ :: _ => cases hbody
  constructor
  · rw [hasGoodTags, Bool.and_eq_true, List.all_eq_true, List.all_eq_true]
    exact ⟨hcodes, hbraces⟩
  · rfl

/-- A block that is left out has a tag that is not good. -/
theorem blockOf_leftOut {context : Context} {method path : String} {line : Nat}
    {comment : DocComment}
    (hblock : (blockOf context method path line comment).result = .error .leftOut) :
    hasGoodTags comment = false := by
  have haccounted := blockOf_accounted context method path line comment
  generalize blockOf context method path line comment = reported at hblock haccounted
  cases haccounted with
  | read => cases hblock
  | failed => cases hblock
  | malformed _ hlast =>
      cases hlast with
      | code htag hname =>
          rw [hasGoodTags, Bool.and_eq_false_iff, List.all_eq_false]
          exact .inl ⟨_, htag, by simp [hname]⟩
      | braces htag htypes =>
          rw [hasGoodTags, Bool.and_eq_false_iff, List.all_eq_false (l := comment.tagsOf "body")]
          exact .inr ⟨_, htag, by simp [htypes]⟩

def outlineOf (context : Context) (sighting : Sighting) : Option Block := do
  let path ← sighting.path
  let found ← commentOf context.file sighting.start
  if hasGoodTags found.2 then some (outline context.config sighting.method path found.2) else none

/-- A registration has a block if its comment has good tags, unless its documentation
fails. -/
theorem outlineOf_eq {context : Context} {sighting : Sighting} {block : Option Block}
    (hblock : (documentSighting context sighting).result = .ok block) :
    block.map Block.withoutPayloads = outlineOf context sighting := by
  cases hpath : sighting.path with
  | none =>
      simp only [documentSighting, hpath] at hblock
      cases hblock
      simp [outlineOf, hpath]
  | some path =>
      cases hcomment : commentOf context.file sighting.start with
      | none =>
          simp only [documentSighting, hpath, documentRoute, hcomment] at hblock
          cases hblock
          simp [outlineOf, hpath, hcomment]
      | some found =>
          obtain ⟨line, comment⟩ := found
          rw [documentSighting_of_comment hpath hcomment, settle] at hblock
          simp only [outlineOf, hpath, hcomment, Option.bind_eq_bind, Option.bind_some]
          dsimp only at hblock
          split at hblock
          · rename_i made hmade
            cases hblock
            obtain ⟨hgood, houtline⟩ := blockOf_of_ok hmade
            rw [if_pos hgood, Option.map_some, houtline]
          · rename_i hleftOut
            cases hblock
            rw [blockOf_leftOut hleftOut]
            rfl
          · cases hblock

/-- The outlines of registrations with the routing objects they belong to. -/
def outlines (context : Context) (sightings : List Sighting) : List (Binding × Block) :=
  sightings.filterMap fun sighting => (outlineOf context sighting).map (sighting.binding, ·)

/-- If every sighting gives a block, the blocks without payloads are the outlines. -/
theorem outlines_eq {context : Context} {sightings : List Sighting}
    (hall : ∀ sighting ∈ sightings, ∃ block,
      (documentSighting context sighting).result = .ok block) :
    (documentedBlocks context sightings).map (Prod.map id Block.withoutPayloads) =
      outlines context sightings := by
  rw [documentedBlocks, outlines, List.map_filterMap]
  apply List.filterMap_congr
  intro sighting hsighting
  obtain ⟨block, hblock⟩ := hall sighting hsighting
  rw [← outlineOf_eq hblock, documented, hblock]
  cases block <;> rfl

/-- A scan without an error puts outlines together, apart from responses and bodies. -/
theorem assemble_outlines {context : Context} {routers : List Router}
    (hscan : (scan context).result = .ok routers) :
    (assemble context (outlines context
        (sightingsIn context.config.routerTypes context.file.module))).result =
      .ok (routers.map (Router.mapBlocks Block.withoutPayloads)) := by
  rw [scan_eq_assemble] at hscan
  obtain ⟨pairs, hpairs, hrouters⟩ := Reported.bind_result_eq_ok hscan
  obtain ⟨rfl, hall, -⟩ := documentAll_of_ok hpairs
  rw [← outlines_eq hall, ← assemble_map Block.path_withoutPayloads, Reported.map_result, hrouters]
  rfl

/-- Two scans that succeed differ in payloads at most. -/
theorem scan_withResponseExamples {context : Context} {table : Table Value}
    {routers others : List Router} (hscan : (scan context).result = .ok routers)
    (hother : (scan (context.withResponseExamples table)).result = .ok others) :
    others.map (Router.mapBlocks Block.withoutPayloads) =
      routers.map (Router.mapBlocks Block.withoutPayloads) := by
  have hassemble : assemble (context.withResponseExamples table) = assemble context := rfl
  have houtlines : outlines (context.withResponseExamples table) = outlines context := rfl
  have hleft := assemble_outlines hother
  rw [hassemble, houtlines] at hleft
  have hright := assemble_outlines hscan
  exact Except.ok.inj (hleft.symm.trans hright)

/-- The two tables of examples are kept apart.  With other examples for parameters, a scan
reports the same and has the same outcome, with routers that differ in the examples of
parameters at most.  With other examples for payloads, routers differ in the responses and
the bodies of their blocks at most, if both scans come to an end. -/
theorem example_tables_apart (context : Context) (table : Table Value) :
    ((scan (context.withParamExamples table)).diagnostics = (scan context).diagnostics ∧
      (scan (context.withParamExamples table)).result.map
          (List.map (Router.mapBlocks Block.withoutSamples)) =
        (scan context).result.map (List.map (Router.mapBlocks Block.withoutSamples))) ∧
      ∀ routers others, (scan context).result = .ok routers →
        (scan (context.withResponseExamples table)).result = .ok others →
          others.map (Router.mapBlocks Block.withoutPayloads) =
            routers.map (Router.mapBlocks Block.withoutPayloads) := by
  have hparams := scan_withParamExamples context table
  have hdiagnostics := congrArg Reported.diagnostics hparams
  have hresult := congrArg Reported.result hparams
  rw [Reported.map_diagnostics, Reported.map_diagnostics] at hdiagnostics
  rw [Reported.map_result, Reported.map_result] at hresult
  exact ⟨⟨hdiagnostics, hresult⟩, fun _ _ => scan_withResponseExamples⟩

/-- The routers of the sample program if its open tag is about a parameter. -/
def routersWithParam (sample : String) : List Router :=
  let block (method path title : String) (params : List Blueprint.Param) : Block :=
    { method, path, title, description := "", params, responses := [], body := none }
  [{ path := "/"
     title := ""
     description := none
     routes := [{
       path := "/users"
       methods := [
         block "get" "/users" "List users" [],
         block "post" "/users" "Add a user" [⟨.path, "id", "int", "", sample⟩],
         block "delete" "/users" "Clear users" []] }] },
   { path := "/"
     title := ""
     description := none
     routes := [{ path := "/login", methods := [block "post" "/login" "Log in" []] }] }]

theorem scan_paramTag :
    (scan (sampleContext "# @param {int} id")).result = .ok (routersWithParam "abcd") := rfl

theorem scan_paramTag_withParamExamples :
    (scan ((sampleContext "# @param {int} id").withParamExamples [("id", .int 7)])).result =
      .ok (routersWithParam "7") := rfl

theorem scan_paramTag_withResponseExamples :
    (scan ((sampleContext "# @param {int} id").withResponseExamples [("id", .int 7)])).result =
      .ok (routersWithParam "abcd") := rfl

/-- An example under the name of the parameter counts in one of the tables. -/
theorem example_tables_apart_sample :
    let context := sampleContext "# @param {int} id"
    let table : Table Value := [("id", .int 7)]
    (scan context).result = .ok (routersWithParam "abcd") ∧
      (scan (context.withParamExamples table)).result = .ok (routersWithParam "7") ∧
      (scan (context.withParamExamples table)).diagnostics = (scan context).diagnostics ∧
      ∃ others, (scan (context.withResponseExamples table)).result = .ok others ∧
        others.map (Router.mapBlocks Block.withoutPayloads) =
          (routersWithParam "abcd").map (Router.mapBlocks Block.withoutPayloads) :=
  have hapart := example_tables_apart (sampleContext "# @param {int} id") [("id", .int 7)]
  ⟨scan_paramTag, scan_paramTag_withParamExamples, hapart.1.1, _,
    scan_paramTag_withResponseExamples,
    hapart.2 _ _ scan_paramTag scan_paramTag_withResponseExamples⟩

end RouteScribe.Route
