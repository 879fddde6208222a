import RouteScribe.Proofs.Route.Footprint

/-!
# How long a name keeps its object

A name keeps its routing object through every statement that does not bind it, unless
the name stands in a target that is more than a plain name or is annotated again.  A
name that is bound to something else loses its object in some forms of binding and
keeps it in the others.
-/

namespace RouteScribe.Route

open RouteScribe.Source

variable {σ : Type}

namespace Surroundings

theorem lookup_of_get? {state : Surroundings σ} {name : String} {found : Option Binding}
    (hfound : state.inner.names.get? name = some found) : state.lookup name = found := by
  simp only [lookup, hfound]

/-- A name that a walk neither binds nor disturbs keeps its object. -/
theorem Within.lookup_eq {binds disturbs : List String} {before after : Surroundings σ}
    (hwithin : Within binds disturbs before after) {name : String} (hbinds : name ∉ binds)
    (hdisturbs : name ∉ disturbs) : after.lookup name = before.lookup name := by
  simp only [lookup, hwithin.kept name hbinds hdisturbs, hwithin.outer]

/-- A name that has been unbound is known as bound to nothing. -/
theorem get?_unbind_of_mem {names : List String} {name : String} (hname : name ∈ names)
    (state : Surroundings σ) : (state.unbind names).inner.names.get? name = some none := by
  induction names generalizing state with
  | nil => cases hname
  | cons other names ih =>
      by_cases hrest : name ∈ names
      · exact ih hrest _
      · obtain rfl := (List.mem_cons.mp hname).resolve_right hrest
        have hkept : ((state.bind name none).unbind names).inner.names.get? name =
            (state.bind name none).inner.names.get? name :=
          (Within.unbind _ names).kept name List.not_mem_nil hrest
        exact hkept.trans (Table.get?_put_self _ _ _)

end Surroundings

/-- What a statement does to a name that it does not bind.  The name keeps its object
unless the statement disturbs it, and then it has none of the objects that were made
before the statement. -/
theorem lookup_after_statement (observer : Observer σ) (statement : Stmt)
    (state : Surroundings σ) {name : String} (hname : name ∉ statement.binds) :
    let after := walkStmt observer statement state
    (name ∉ statement.disturbs → after.lookup name = state.lookup name) ∧
      (name ∈ statement.disturbs →
        ∀ binding, binding.id < state.fresh → after.lookup name ≠ some binding) := by
  intro after
  have hwithin : Surroundings.Within statement.binds statement.disturbs state after :=
    (within_closed observer).walkStmt statement state state
  constructor
  · exact hwithin.lookup_eq hname
  · intro hdisturbs binding hold hlookup
    obtain ⟨found, hfound, hmade⟩ := hwithin.lost name hname hdisturbs
    rw [Surroundings.lookup_of_get? hfound] at hlookup
    exact absurd (hmade binding hlookup) (Nat.not_le.mpr hold)

/-- A walk that takes no notice of calls. -/
def quietObserver : Observer Unit where
  types := ["Router"]
  observe _ seen := seen

def sampleSurroundings : Surroundings Unit :=
  walkStmt quietObserver
    (.assign ⟨1, 0⟩ [.name "router"] (.call ⟨1, 9⟩ (.name "Router") [] [])) (.initial ())

/-- The statement `router.prefix = "/api"`. -/
def memberAssignment : Stmt :=
  .assign ⟨2, 0⟩ [.attribute (.name "router") "prefix"] (.literal (.str "/api" false))

/-- The statement `for item in router: pass`. -/
def sampleLoop : Stmt :=
  .forLoop (.name "item") (.name "router") [.idle] []

theorem lookup_after_statement_sample :
    (walkStmt quietObserver sampleLoop sampleSurroundings).lookup "router" =
        sampleSurroundings.lookup "router" ∧
      (walkStmt quietObserver memberAssignment sampleSurroundings).lookup "router" ≠
        some ⟨0, "router", some ⟨1, 0⟩⟩ :=
  ⟨(lookup_after_statement quietObserver sampleLoop sampleSurroundings (by decide)).1 (by decide),
    (lookup_after_statement quietObserver memberAssignment sampleSurroundings (by decide)).2
      (by decide) _ (by decide)⟩

/-- An assignment to a member of an object does not bind the name of the object, and yet
the name loses the object. -/
theorem lookup_lost_by_member_assignment :
    "router" ∉ memberAssignment.binds ∧
      sampleSurroundings.lookup "router" = some ⟨0, "router", some ⟨1, 0⟩⟩ ∧
      (walkStmt quietObserver memberAssignment sampleSurroundings).lookup "router" = none :=
  ⟨by decide, rfl, rfl⟩

/-! ## Binding forms -/

/-- A part of a program that binds names in the scope where it stands. -/
inductive Binder where
  | assign (start : NodeStart) (targets : List Expr) (value : Expr)
  | annotated (start : NodeStart) (target hint value : Expr)
  | augmented (target : Expr) (op : BinaryOp) (value : Expr)
  | typeAlias (name : String) (bounds : List Expr) (value : Expr)
  | loop (target source : Expr)
  | context (manager target : Expr)
  | imports (names : List ImportName)
  | importsFrom (module : String) (names : List ImportName)
  | handler (type : Option Expr) (name : String)
  | clause (pattern : Pattern)
  | function (start : NodeStart) (name : String) (params : Params) (decorators : List Decorator)
      (result : Option Expr) (body : List Stmt)
  | classDef (definition : ClassDef)
  | named (target : String) (value : Expr)

namespace Binder

def names : Binder → List String
  | .assign _ targets _ => storedInAll targets
  | .annotated _ target _ _ | .augmented target _ _ => target.plainName
  | .typeAlias name _ _ => [name]
  | .loop target _ | .context _ target => target.stored
  | .imports names | .importsFrom _ names => names.map ImportName.bound
  | .handler _ name => [name]
  | .clause pattern => pattern.captures
  | .function _ name _ _ _ _ => [name]
  | .classDef definition => [definition.name]
  | .named target _ => [target]

/-- The walk up to the point where the names are bound.  What follows in a loop, a
block or a clause has not been walked through yet. -/
def walk (observer : Observer σ) : Binder → Surroundings σ → Surroundings σ
  | .assign start targets value => walkStmt observer (.assign start targets value)
  | .annotated start target hint value =>
      walkStmt observer (.annotated start target hint (some value))
  | .augmented target op value => walkStmt observer (.augmented target op value)
  | .typeAlias name bounds value => walkStmt observer (.typeAlias name bounds value)
  | .loop target source => walkStmt observer (.forLoop target source [] [])
  | .context manager target => walkContexts observer [(manager, some target)]
  | .imports names => walkStmt observer (.imports names)
  | .importsFrom module names => walkStmt observer (.importsFrom module names)
  | .handler type name => walkHandlers observer [.mk type (some name) []]
  | .clause pattern => walkPattern observer pattern
  | .function start name params decorators result body =>
      walkStmt observer (.function start name params decorators result body)
  | .classDef definition => walkStmt observer (.classDef definition)
  | .named target value => walkExpr observer (.named target value)

/-- Whether the walk follows this form of binding. -/
def isTracked : Binder → Bool
  | .assign _ _ _ | .annotated _ _ _ _ | .loop _ _ | .function _ _ _ _ _ _ | .classDef _
  | .named _ _ => true
  | .augmented _ _ _ | .typeAlias _ _ _ | .context _ _ | .imports _ | .importsFrom _ _
  | .handler _ _ | .clause _ => false

/-- The names bound by assignment expressions inside of it. -/
def evaluates : Binder → List String
  | .assign _ targets value => value.binds ++ bindsInAll targets
  | .annotated _ target hint value => value.binds ++ hint.binds ++ target.binds
  | .augmented target _ value => target.binds ++ value.binds
  | .typeAlias _ bounds value => bindsInAll bounds ++ value.binds
  | .loop target source => source.binds ++ target.binds
  | .context manager target => manager.binds ++ target.binds
  | .imports _ | .importsFrom _ _ => []
  | .handler type _ => bindsInOption type
  | .clause pattern => pattern.binds
  | .function _ _ params decorators result _ =>
      bindsInDecorators decorators ++ params.binds ++ bindsInOption result
  | .classDef definition =>
      bindsInDecorators definition.decorators ++ bindsInAll definition.bases ++
        bindsInKeywords definition.keywords
  | .named _ value => value.binds

end Binder

/-- Whether a value is seen to be a routing object when it is assigned: it names one, or
it or its annotation has the type of one. -/
def IsRoutingValue (observer : Observer σ) (state : Surroundings σ) (value : Expr)
    (hint : Option Expr) : Prop :=
  ((walkExpr observer value state).shared (some value)).isSome ∨
    isObjectType observer.types (some value) hint

/-- Whether a name is bound to what is seen to be a routing object. -/
def Binder.Recognised (observer : Observer σ) (state : Surroundings σ) (name : String) :
    Binder → Prop
  | .assign _ targets value => .name name ∈ targets ∧ IsRoutingValue observer state value none
  | .annotated _ _ hint value => IsRoutingValue observer state value (some hint)
  | .named _ value => IsRoutingValue observer state value none
  | _ => False

/-- A value that is no routing object is assigned as nothing. -/
theorem assigned_of_not_routing {observer : Observer σ} {state : Surroundings σ} {value : Expr}
    {hint : Option Expr} (hvalue : ¬ IsRoutingValue observer state value hint) (name : String)
    (declaration : Option NodeStart) :
    (walkExpr observer value state).assigned observer.types name (some value) hint declaration =
      (none, walkExpr observer value state) := by
  simp only [IsRoutingValue, not_or, Option.not_isSome_iff_eq_none] at hvalue
  simp [Surroundings.assigned, hvalue.1, hvalue.2]

/-- Among targets that bind a name to nothing, the last one decides. -/
theorem get?_walkTargets {observer : Observer σ} {binding : Option Binding}
    {targets : List Expr} {state : Surroundings σ} {name : String}
    (hplain : .name name ∈ targets → binding = none)
    (hname : name ∈ storedInAll targets ∨ state.inner.names.get? name = some none) :
    (walkTargets observer binding targets state).inner.names.get? name = some none := by
  fun_induction walkTargets observer binding targets state with
  | case1 state => simpa [storedInAll] using hname
  | case2 id targets state ih =>
      refine ih (fun hmem => hplain (List.mem_cons_of_mem _ hmem)) ?_
      by_cases hid : name = id
      · subst hid
        rw [hplain List.mem_cons_self]
        exact .inr (Table.get?_put_self _ _ _)
      · have hkept : (state.bind id binding).inner.names.get? name =
            state.inner.names.get? name := Table.get?_put_of_ne hid _ _
        rw [hkept]
        simpa [storedInAll, Expr.stored, hid] using hname
  | case3 target targets state hcompound ih =>
      refine ih (fun hmem => hplain (List.mem_cons_of_mem _ hmem)) ?_
      by_cases hmem : name ∈ target.names
      · exact .inr (Surroundings.get?_unbind_of_mem hmem _)
      · have hwalk := ((within_closed observer).walkExpr target state state).trans
          (.unbind _ target.names)
        have hbinds : name ∉ target.binds ++ [] := by
          rw [List.append_nil]
          exact fun hbound => hmem (target.mem_names_of_mem_binds hbound)
        rw [hwalk.kept name hbinds hmem]
        refine hname.imp_left fun hstored => ?_
        rw [storedInAll, List.mem_append] at hstored
        exact hstored.resolve_left fun htarget => hmem (target.mem_names_of_mem_stored htarget)

namespace Binder

variable {observer : Observer σ} {state : Surroundings σ} {name : String}

/-- Chained targets are all bound to what is found for the first plain name. -/
theorem get?_walk_assign {start : NodeStart} {targets : List Expr} {value : Expr}
    (hname : name ∈ storedInAll targets)
    (hother : ¬ (.name name ∈ targets ∧ IsRoutingValue observer state value none)) :
    (walkAssign observer start targets value state).inner.names.get? name = some none := by
  unfold walkAssign
  dsimp only
  split
  · refine get?_walkTargets (fun hplain => ?_) (.inl hname)
    have hvalue : ¬ IsRoutingValue observer state value none :=
      fun hrouting => hother ⟨hplain, hrouting⟩
    rw [assigned_of_not_routing hvalue]
  · exact get?_walkTargets (fun _ => rfl) (.inl hname)

/-- A form of binding that is followed binds its names to nothing, unless to a routing
object. -/
theorem get?_walk_of_isTracked {binder : Binder} (htracked : binder.isTracked)
    (hname : name ∈ binder.names) (hother : ¬ binder.Recognised observer state name) :
    (binder.walk observer state).inner.names.get? name = some none := by
  cases binder with
  | assign start targets value =>
      simp only [walk, walkStmt]
      exact get?_walk_assign hname hother
  | annotated start target hint value =>
      simp only [walk, walkStmt, walkAnnotated, walkOption]
      cases target with
      | name id =>
          obtain rfl := List.mem_singleton.mp hname
          dsimp only
          rw [assigned_of_not_routing hother]
          exact Table.get?_put_self _ _ _
      | _ => cases hname
  | loop target source =>
      simp only [walk, walkStmt, walkStmts]
      exact Surroundings.get?_unbind_of_mem (target.mem_names_of_mem_stored hname) _
  | function start id params decorators result body =>
      obtain rfl := List.mem_singleton.mp hname
      simp only [walk, walkStmt]
      exact Table.get?_put_self _ _ _
  | classDef definition =>
      obtain ⟨id, bases, keywords, decorators, body⟩ := definition
      obtain rfl := List.mem_singleton.mp hname
      simp only [walk, walkStmt]
      exact Table.get?_put_self _ _ _
  | named target value =>
      obtain rfl := List.mem_singleton.mp hname
      simp only [walk, walkExpr]
      rw [assigned_of_not_routing hother]
      exact Table.get?_put_self _ _ _
  | augmented | typeAlias | context | imports | importsFrom | handler | clause => cases htracked

/-- Through the other forms of binding the walk goes as through their expressions. -/
theorem within_of_not_isTracked {binder : Binder} (htracked : binder.isTracked = false)
    (state : Surroundings σ) :
    Surroundings.Within binder.evaluates [] state (binder.walk observer state) := by
  have hclosed := within_closed observer
  cases binder with
  | augmented target op value =>
      simp only [walk, walkStmt, evaluates]
      exact (hclosed.walkExpr target state state).trans (hclosed.walkExpr value _ state)
  | typeAlias id bounds value =>
      simp only [walk, walkStmt, evaluates]
      exact (hclosed.walkAll bounds state state).trans (hclosed.walkExpr value _ state)
  | context manager target =>
      simp only [walk, walkContexts, walkOption, evaluates]
      exact (hclosed.walkExpr manager state state).trans (hclosed.walkExpr target _ state)
  | imports names | importsFrom module names =>
      simp only [walk, walkStmt, evaluates]
      exact .refl state
  | handler type name =>
      simp only [walk, walkHandlers, walkStmts, evaluates]
      exact hclosed.walkOption type state state
  | clause pattern => exact hclosed.walkPattern pattern state state
  | assign | annotated | loop | function | classDef | named => cases htracked

end Binder

/-- What becomes of a name that is bound to something that is not seen to be a routing
object.  The forms of binding that the walk follows leave the name without an object; in
all others it still has the object from before, if nothing inside of them binds it. -/
theorem lookup_after_binding (observer : Observer σ) (binder : Binder) (state : Surroundings σ)
    {name : String} (hname : name ∈ binder.names)
    (hother : ¬ binder.Recognised observer state name) :
    let after := binder.walk observer state
    (binder.isTracked = true → after.lookup name = none) ∧
      (binder.isTracked = false → name ∉ binder.evaluates →
        after.lookup name = state.lookup name) := by
  intro after
  constructor
  · intro htracked
    exact Surroundings.lookup_of_get? (Binder.get?_walk_of_isTracked htracked hname hother)
  · intro htracked hinside
    exact (Binder.within_of_not_isTracked htracked state).lookup_eq hinside List.not_mem_nil

theorem lookup_after_binding_sample :
    (Binder.walk quietObserver (.loop (.name "router") (.name "routers"))
        sampleSurroundings).lookup "router" = none ∧
      (Binder.walk quietObserver (.imports [⟨"router.views", none⟩]) sampleSurroundings).lookup
        "router" = sampleSurroundings.lookup "router" :=
  ⟨(lookup_after_binding quietObserver (.loop (.name "router") (.name "routers"))
      sampleSurroundings List.mem_cons_self id).1 rfl,
    (lookup_after_binding quietObserver (.imports [⟨"router.views", none⟩]) sampleSurroundings
      (by decide) id).2 rfl List.not_mem_nil⟩

/-- In `with connect() as router` the name is bound to something else, and yet it keeps
the old object. -/
theorem lookup_stale_after_context :
    let binder : Binder := .context (.call ⟨2, 5⟩ (.name "connect") [] []) (.name "router")
    "router" ∈ binder.names ∧ ¬ binder.Recognised quietObserver sampleSurroundings "router" ∧
      (binder.walk quietObserver sampleSurroundings).lookup "router" =
        some ⟨0, "router", some ⟨1, 0⟩⟩ :=
  ⟨by decide, id, rfl⟩

end RouteScribe.Route
