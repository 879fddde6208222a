import RouteScribe.Blueprint.Writer
import RouteScribe.Proofs.Json.KeyOrder

/-!
# Blueprints without an order of keys

Routers are alike if they differ at most in the order of the keys in the payloads and
schemas of their routes.  A payload is written with sorted keys and nothing else in a
blueprint is read off a payload, so routers that are alike are written in the same way.
-/

namespace RouteScribe.Blueprint

open RouteScribe.Json

/-! ### Routers that are alike -/

structure Response.Alike (left right : Response) : Prop where
  code : left.code = right.code
  condition : left.condition = right.condition
  type : left.type = right.type
  body : left.body.Alike right.body
  schema : Option.Rel Value.Alike left.schema right.schema

structure RequestBody.Alike (left right : RequestBody) : Prop where
  type : left.type = right.type
  body : left.body.Alike right.body
  schema : Option.Rel Value.Alike left.schema right.schema

structure Block.Alike (left right : Block) : Prop where
  method : left.method = right.method
  path : left.path = right.path
  title : left.title = right.title
  description : left.description = right.description
  params : left.params = right.params
  responses : List.Forall₂ Response.Alike left.responses right.responses
  body : Option.Rel RequestBody.Alike left.body right.body

structure Group.Alike (left right : Group) : Prop where
  path : left.path = right.path
  methods : List.Forall₂ Block.Alike left.methods right.methods

/-- Routers that differ at most in the order of keys, at any depth of the payloads and
schemas of their routes. -/
structure Router.Alike (left right : Router) : Prop where
  path : left.path = right.path
  title : left.title = right.title
  description : left.description = right.description
  routes : List.Forall₂ Group.Alike left.routes right.routes

/-! ### Payloads -/

def Response.payloads (response : Response) : List Value :=
  response.body :: response.schema.toList

def RequestBody.payloads (body : RequestBody) : List Value :=
  body.body :: body.schema.toList

def Block.payloads (block : Block) : List Value :=
  block.responses.flatMap Response.payloads ++ block.body.toList.flatMap RequestBody.payloads

def Group.payloads (group : Group) : List Value :=
  group.methods.flatMap Block.payloads

def Router.payloads (router : Router) : List Value :=
  router.routes.flatMap Group.payloads

theorem payloadText?_of_alike {left right : Value} (halike : left.Alike right)
    (hdistinct : left.hasDistinctKeys) : payloadText? left = payloadText? right := by
  have hpretty : left.pretty? = right.pretty? :=
    congrArg (Value.indented? 0) (halike.sortKeys_eq hdistinct)
  cases halike with
  | refl => rfl
  | arr => exact hpretty
  | obj => exact hpretty

theorem writePayload_of_alike {left right : Value} (halike : left.Alike right)
    (hdistinct : left.hasDistinctKeys) : writePayload left = writePayload right := by
  rw [writePayload, payloadText?_of_alike halike hdistinct, writePayload]

/-- A payload is there or not, whatever the order of its keys. -/
theorem rel_present? {left right : Value} (halike : left.Alike right) :
    Option.Rel Value.Alike (present? left) (present? right) := by
  cases halike with
  | refl =>
      cases left with
      | null => exact .none
      | _ => exact .some (.refl _)
  | arr hitems => exact .some (.arr hitems)
  | obj hnames hvalues hperm => exact .some (.obj hnames hvalues hperm)

theorem of_mem_present? {value payload : Value} (hpayload : payload ∈ present? value) :
    payload = value := by
  cases value with
  | null => cases hpayload
  | _ => exact (Option.some.inj hpayload).symm

theorem map_eq_map_of_rel {α β γ : Type} {related : α → β → Prop} {f : α → γ} {g : β → γ}
    {x : Option α} {y : Option β} (hrelated : Option.Rel related x y)
    (hsame : ∀ a ∈ x, ∀ b, related a b → f a = g b) : x.map f = y.map g := by
  cases hrelated with
  | none => rfl
  | some hab => exact congrArg some (hsame _ rfl _ hab)

/-! ### Sections of a blueprint -/

theorem writeSection_eq (heading : String) (payload : Option Value) :
    writeSection heading payload =
      ((payload.map writePayload).map
        (Written.done ("\n" ++ sectionMargin ++ "+ " ++ heading ++ "\n")).andThen).getD
          (.done "") := by
  cases payload <;> rfl

theorem writeBody_eq (title : String) (body : RequestBody) :
    writeBody title body =
      (Written.done (Text.onString Text.trimEnd ("\n+ Request " ++ title) ++
        typeSuffix (nonEmpty? body.type) ++ "\n")).andThen
          (((present? body.body).map writePayload).getD (.done "")) := by
  unfold writeBody
  cases present? body.body <;> rfl

theorem map_writePayload_of_alike {left right : Option Value}
    (halike : Option.Rel Value.Alike left right)
    (hdistinct : ∀ value ∈ left, value.hasDistinctKeys) :
    left.map writePayload = right.map writePayload := by
  apply map_eq_map_of_rel halike
  intro value hvalue other hother
  exact writePayload_of_alike hother (hdistinct value hvalue)

theorem map_present?_of_alike {left right : Value} (halike : left.Alike right)
    (hdistinct : left.hasDistinctKeys) :
    (present? left).map writePayload = (present? right).map writePayload := by
  apply map_writePayload_of_alike (rel_present? halike)
  intro value hvalue
  rwa [of_mem_present? hvalue]

theorem writeResponse_of_alike {left right : Response} (halike : left.Alike right)
    (hdistinct : ∀ value ∈ left.payloads, value.hasDistinctKeys) :
    writeResponse left = writeResponse right := by
  have hbody := map_present?_of_alike halike.body (hdistinct _ List.mem_cons_self)
  have hschema : left.schema.map writePayload = right.schema.map writePayload := by
    apply map_writePayload_of_alike halike.schema
    intro value hvalue
    exact hdistinct _ (List.mem_cons_of_mem _ (Option.mem_toList.mpr hvalue))
  simp only [writeResponse, writeSection_eq, halike.code, halike.type, hbody, hschema]

theorem writeBody_of_alike (title : String) {left right : RequestBody}
    (halike : left.Alike right) (hdistinct : ∀ value ∈ left.payloads, value.hasDistinctKeys) :
    writeBody title left = writeBody title right := by
  have hbody := map_present?_of_alike halike.body (hdistinct _ List.mem_cons_self)
  rw [writeBody_eq, writeBody_eq, halike.type, hbody]

/-- Blocks alike up to the order of keys in their payloads are written alike. -/
theorem writeBlock_of_alike {left right : Block} (halike : left.Alike right)
    (hdistinct : ∀ value ∈ left.payloads, value.hasDistinctKeys) :
    writeBlock left = writeBlock right := by
  have hresponses : left.responses.map writeResponse = right.responses.map writeResponse := by
    apply Value.map_eq_map_of_forall₂ halike.responses
    intro response hresponse other hother
    apply writeResponse_of_alike hother
    intro value hvalue
    exact hdistinct value
      (List.mem_append_left _ (List.mem_flatMap.mpr ⟨response, hresponse, hvalue⟩))
  have hbody : left.body.map (writeBody left.title) = right.body.map (writeBody left.title) := by
    apply map_eq_map_of_rel halike.body
    intro body hbody other hother
    apply writeBody_of_alike _ hother
    intro value hvalue
    exact hdistinct value
      (List.mem_append_right _ (List.mem_flatMap.mpr ⟨body, Option.mem_toList.mpr hbody, hvalue⟩))
  rw [writeBlock, writeBlock, hresponses, hbody, halike.method, halike.title,
    halike.description, halike.params]

/-- The address of a group is made from its path and parameters. -/
theorem groupAddress_of_alike (leading : String) {left right : Group}
    (halike : left.Alike right) : groupAddress leading left = groupAddress leading right := by
  have hparams : left.methods.map Block.params = right.methods.map Block.params := by
    apply Value.map_eq_map_of_forall₂ halike.methods
    intro block _ other hother
    exact hother.params
  have hnames : queryNames left = queryNames right := by
    have hflat := congrArg (List.flatMap fun params : List Param =>
      (params.filter (·.place = .query)).map (·.name)) hparams
    rw [List.flatMap_map, List.flatMap_map] at hflat
    rw [queryNames, hflat, queryNames]
  rw [groupAddress, halike.path, hnames, groupAddress]

theorem writeGroup_of_alike (leading : String) {left right : Group} (halike : left.Alike right)
    (hdistinct : ∀ value ∈ left.payloads, value.hasDistinctKeys) :
    writeGroup leading left = writeGroup leading right := by
  have hmethods : left.methods.map writeBlock = right.methods.map writeBlock := by
    apply Value.map_eq_map_of_forall₂ halike.methods
    intro block hblock other hother
    apply writeBlock_of_alike hother
    intro value hvalue
    exact hdistinct value (List.mem_flatMap.mpr ⟨block, hblock, hvalue⟩)
  rw [writeGroup, writeGroup, hmethods, groupAddress_of_alike leading halike, halike.path]

/-- Routers that differ at most in the order of keys are written in the same way, as far as
they can be written. -/
theorem writeRouter_of_alike {left right : Router} (halike : left.Alike right)
    (hdistinct : ∀ value ∈ left.payloads, value.hasDistinctKeys) :
    writeRouter left = writeRouter right := by
  have hroutes : left.routes.map (writeGroup left.path) =
      right.routes.map (writeGroup left.path) := by
    apply Value.map_eq_map_of_forall₂ halike.routes
    intro group hgroup other hother
    apply writeGroup_of_alike _ hother
    intro value hvalue
    exact hdistinct value (List.mem_flatMap.mpr ⟨group, hgroup, hvalue⟩)
  rw [writeRouter, writeRouter, hroutes, halike.path, halike.title, halike.description]

/-- A router with one route, which takes and gives the same payload. -/
def echoRouter (payload : Value) : Router where
  path := "/api"
  title := "Echo"
  description := none
  routes :=
    [{ path := "/echo"
       methods :=
        [{ method := "post", path := "/echo", title := "Echo", description := "", params := []
           responses := [⟨200, none, some "application/json", payload, some payload⟩]
           body := some ⟨some "application/json", payload, none⟩ }] }]

/-- A payload with the keys of an object in an array in the given order. -/
def listing (flags : Table Value) : Value :=
  .obj [("size", .int 1), ("items", .arr [.obj flags])]

theorem listing_alike {flags others : Table Value} (hperm : flags.Perm others) :
    (listing flags).Alike (.obj [("items", .arr [.obj others]), ("size", .int 1)]) := by
  have hflags : (Value.obj flags).Alike (.obj others) :=
    .obj rfl (List.forall₂_same.mpr fun value _ => .refl value) hperm
  have hitems : (Value.arr [.obj flags]).Alike (.arr [.obj others]) :=
    .arr (.cons hflags .nil)
  exact @Value.Alike.obj _ [("size", .int 1), ("items", .arr [.obj others])] _ rfl
    (.cons (.refl (.int 1)) (.cons hitems .nil)) (List.Perm.swap _ _ _)

theorem echoRouter_alike {left right : Value} (halike : left.Alike right) :
    (echoRouter left).Alike (echoRouter right) :=
  ⟨rfl, rfl, rfl, .cons ⟨rfl, .cons ⟨rfl, rfl, rfl, rfl, rfl,
    .cons ⟨rfl, rfl, rfl, halike, .some halike⟩ .nil, .some ⟨rfl, halike, .none⟩⟩ .nil⟩ .nil⟩

theorem writeRouter_of_alike_listing :
    writeRouter (echoRouter (listing [("old", .bool true), ("new", .null)])) =
      writeRouter (echoRouter
        (.obj [("items", .arr [.obj [("new", .null), ("old", .bool true)]]), ("size", .int 1)])) :=
  writeRouter_of_alike (echoRouter_alike (listing_alike (List.Perm.swap _ _ _))) (by decide)

end RouteScribe.Blueprint
