import RouteScribe.Proofs.Route.Rebinding
import RouteScribe.Proofs.Route.TwoPhase

/-!
# Scopes are lexical

A walk through any node leaves the scopes further out alone and comes back to the depth
at which it started.  A function or a class therefore changes the scope around it by its
head only, and what its body binds is gone with the body.  The names of a class are not
even seen by its methods: the code of a method goes the same way whatever they are.
-/

namespace RouteScribe.Route

open RouteScribe.Source

variable {σ : Type}

/-! ## Nodes -/

/-- A node of a syntax tree, of whatever kind. -/
inductive Node where
  | expr (expr : Expr)
  | textPart (part : TextPart)
  | keyword (keyword : Keyword)
  | clause (clause : Clause)
  | param (param : Param)
  | params (params : Params)
  | pattern (pattern : Pattern)
  | context (item : Expr × Option Expr)
  | handler (handler : Handler)
  | case (case : Case)
  | stmt (statement : Stmt)
  | module (statements : Module)

namespace Node

def walk (observer : Observer σ) : Node → Surroundings σ → Surroundings σ
  | .expr item => walkExpr observer item
  | .textPart item => walkParts observer [item]
  | .keyword item => walkKeywords observer [item]
  | .clause item => walkClauses observer [item]
  | .param item => walkHint observer item
  | .params item => walkParams observer item
  | .pattern item => walkPattern observer item
  | .context item => walkContexts observer [item]
  | .handler item => walkHandlers observer [item]
  | .case item => walkCases observer [item]
  | .stmt item => walkStmt observer item
  | .module item => walkStmts observer item

def binds : Node → List String
  | .expr item => item.binds
  | .textPart item => bindsInParts [item]
  | .keyword item => bindsInKeywords [item]
  | .clause item => bindsInClauses [item]
  | .param item => item.hintBinds
  | .params item => item.binds
  | .pattern item => item.binds
  | .context item => bindsInContexts [item]
  | .handler item => bindsInHandlers [item]
  | .case item => bindsInCases [item]
  | .stmt item => item.binds
  | .module item => bindsInStmts item

def disturbs : Node → List String
  | .handler item => disturbedByHandlers [item]
  | .case item => disturbedByCases [item]
  | .stmt item => item.disturbs
  | .module item => disturbedByStmts item
  | _ => []

end Node

/-- What the steps of a walk keep holds of the walk through any node. -/
theorem WalkRelation.Closed.walkNode {τ : Type} {holds : WalkRelation σ τ}
    {observer : Observer σ} {other : Observer τ} (hclosed : holds.Closed observer other)
    (node : Node) (left : Surroundings σ) (right : Surroundings τ) :
    holds node.binds node.disturbs left right (node.walk observer left)
      (node.walk other right) := by
  cases node with
  | expr expr => exact hclosed.walkExpr expr left right
  | textPart part => exact hclosed.walkParts [part] left right
  | keyword keyword => exact hclosed.walkKeywords [keyword] left right
  | clause clause => exact hclosed.walkClauses [clause] left right
  | param param => exact hclosed.walkHint param left right
  | params params => exact hclosed.walkParams params left right
  | pattern pattern => exact hclosed.walkPattern pattern left right
  | context item => exact hclosed.walkContexts [item] left right
  | handler handler => exact hclosed.walkHandlers [handler] left right
  | case case => exact hclosed.walkCases [case] left right
  | stmt statement => exact hclosed.walkStmt statement left right
  | module statements => exact hclosed.walkStmts statements left right

theorem Node.within (observer : Observer σ) (node : Node) (state : Surroundings σ) :
    Surroundings.Within node.binds node.disturbs state (node.walk observer state) :=
  (within_closed observer).walkNode node state state

/-! ## Definitions -/

/-- A node with a scope of its own. -/
inductive Definition where
  | function (start : NodeStart) (name : String) (params : Params) (decorators : List Decorator)
      (result : Option Expr) (body : List Stmt)
  | lambda (params : Params) (body : Expr)
  | classDef (name : String) (bases : List Expr) (keywords : List Keyword)
      (decorators : List Decorator) (body : List Stmt)

namespace Definition

def node : Definition → Node
  | .function start name params decorators result body =>
      .stmt (.function start name params decorators result body)
  | .lambda params body => .expr (.lambda params body)
  | .classDef name bases keywords decorators body =>
      .stmt (.classDef (.mk name bases keywords decorators body))

def name? : Definition → Option String
  | .function _ name _ _ _ _ | .classDef name _ _ _ _ => some name
  | .lambda _ _ => none

/-- The names bound by assignment expressions in the head of a definition: in decorators,
in the annotations and defaults of parameters, in the result type, in bases and in
keywords. -/
def headBinds : Definition → List String
  | .function _ _ params decorators result _ =>
      bindsInDecorators decorators ++ params.binds ++ bindsInOption result
  | .lambda params _ => params.binds
  | .classDef _ bases keywords decorators _ =>
      bindsInDecorators decorators ++ bindsInAll bases ++ bindsInKeywords keywords

def withoutBody : Definition → Definition
  | .function start name params decorators result _ =>
      .function start name params decorators result []
  | .lambda params _ => .lambda params (.literal .none)
  | .classDef name bases keywords decorators _ => .classDef name bases keywords decorators []

theorem binds_node (definition : Definition) :
    definition.node.binds = definition.headBinds ++ definition.name?.toList := by
  cases definition with
  | function => rfl
  | lambda params body => exact (List.append_nil params.binds).symm
  | classDef => rfl

theorem disturbs_node (definition : Definition) : definition.node.disturbs = [] := by
  cases definition <;> rfl

end Definition

/-- Whatever is walked through in an inner scope, leaving it leads back to the scope
around it. -/
theorem inner_leave_walk (observer : Observer σ) (node : Node) (state : Surroundings σ)
    (scope : Scope) : (node.walk observer (state.enter scope)).leave.inner = state.inner := by
  have houter : (node.walk observer (state.enter scope)).outer = state.inner :: state.outer :=
    (node.within observer (state.enter scope)).outer
  simp only [Surroundings.leave, houter]

/-- The body of a definition leaves no trace in the scope around it. -/
theorem Definition.inner_walk (observer : Observer σ) (definition : Definition)
    (state : Surroundings σ) :
    (definition.node.walk observer state).inner =
      (definition.withoutBody.node.walk observer state).inner := by
  cases definition with
  | function start name params decorators result body =>
      have hbody (body : List Stmt) :=
        inner_leave_walk observer (.module body)
          (paramScope observer.types (functionDeclaration start decorators) (boundParams params)
            (.empty false) (walkOption observer result
              (walkParams observer params (walkDecorators observer decorators state)))).2
      simp only [Node.walk] at hbody
      simp only [node, withoutBody, Node.walk, walkStmt, enterFunction, Surroundings.bind, hbody]
  | lambda params body =>
      have hbody (body : Expr) := inner_leave_walk observer (.expr body)
        (walkParams observer params state) (lambdaScope params)
      simp only [Node.walk] at hbody
      simp only [node, withoutBody, Node.walk, walkExpr.eq_def observer (.lambda params _), hbody]
  | classDef name bases keywords decorators body =>
      have hbody (body : List Stmt) := inner_leave_walk observer (.module body)
        (walkKeywords observer keywords
          (walkAll observer bases (walkDecorators observer decorators state))) (.empty true)
      simp only [Node.walk] at hbody
      simp only [node, withoutBody, Node.walk, walkStmt, Surroundings.bind, hbody]

/-! ## What is seen from further in -/

namespace Surroundings

/-- The surroundings without the classes further out, whose names are not seen. -/
def view (state : Surroundings σ) : Surroundings σ :=
  { state with outer := state.outer.filter (!·.isClass) }

theorem lookup_view (state : Surroundings σ) : state.view.lookup = state.lookup := by
  funext name
  simp [lookup, view, List.filter_filter]

theorem shared_view (state : Surroundings σ) : state.view.shared = state.shared := by
  funext value
  simp only [shared, lookup_view]

theorem view_bind (state : Surroundings σ) (name : String) (binding : Option Binding) :
    (state.bind name binding).view = state.view.bind name binding := rfl

theorem assigned_view (types : List String) (state : Surroundings σ) (name : String)
    (value hint : Option Expr) (declaration : Option NodeStart) :
    state.view.assigned types name value hint declaration =
      Prod.map id view (state.assigned types name value hint declaration) := by
  simp only [assigned, shared_view]
  split
  · rfl
  · split <;> rfl

/-- An assignment binds the same object wherever the view is the same. -/
theorem assigned_of_view_eq {left right : Surroundings σ} (hview : left.view = right.view)
    (types : List String) (name : String) (value hint : Option Expr)
    (declaration : Option NodeStart) :
    (left.assigned types name value hint declaration).1 =
        (right.assigned types name value hint declaration).1 ∧
      (left.assigned types name value hint declaration).2.view =
        (right.assigned types name value hint declaration).2.view := by
  have hleft := assigned_view types left name value hint declaration
  have hright := assigned_view types right name value hint declaration
  rw [hview, hright] at hleft
  exact ⟨(congrArg Prod.fst hleft).symm, (congrArg Prod.snd hleft).symm⟩

/-- Parameters are declared alike in what can be seen of the surroundings. -/
theorem paramScope_view (types : List String) (declaration : NodeStart) (params : List Param)
    (scope : Scope) (state : Surroundings σ) :
    paramScope types declaration params scope state.view =
      Prod.map id view (paramScope types declaration params scope state) := by
  induction params generalizing scope state with
  | nil => rfl
  | cons param params ih =>
      simp only [paramScope]
      split
      · exact ih _ (state.create param.name (some declaration)).2
      · exact ih _ state

/-- Parameters make the same scope wherever the view is the same. -/
theorem paramScope_of_view_eq {left right : Surroundings σ} (hview : left.view = right.view)
    (types : List String) (declaration : NodeStart) (params : List Param) (scope : Scope) :
    (paramScope types declaration params scope left).1 =
        (paramScope types declaration params scope right).1 ∧
      (paramScope types declaration params scope left).2.view =
        (paramScope types declaration params scope right).2.view := by
  have hleft := paramScope_view types declaration params scope left
  have hright := paramScope_view types declaration params scope right
  rw [hview, hright] at hleft
  exact ⟨(congrArg Prod.fst hleft).symm, (congrArg Prod.snd hleft).symm⟩

theorem sight_view (observer : Observer σ) (state : Surroundings σ) (start : NodeStart)
    (func : Expr) (args : List Expr) :
    (state.sight observer start func args).view =
      state.view.sight observer start func args := by
  simp only [sight, lookup_view]
  split
  · split
    · split <;> rfl
    · rfl
  · rfl

theorem enter_of_view_eq {left right : Surroundings σ} (hview : left.view = right.view)
    (scope : Scope) : (left.enter scope).view = (right.enter scope).view := by
  simp only [view, Surroundings.mk.injEq] at hview
  simp only [view, enter, List.filter_cons, hview]

end Surroundings

open Surroundings

/-- Walks that start with the same view end with the same view, each below the scopes
that it started below. -/
def sameView : WalkRelation σ σ :=
  fun _ _ left right left₁ right₁ => left.view = right.view →
    left₁.view = right₁.view ∧ left₁.outer = left.outer ∧ right₁.outer = right.outer

/-- What cannot be seen makes no difference to a walk. -/
theorem sameView_closed (observer : Observer σ) : sameView.Closed observer observer where
  refl _ _ hview := ⟨hview, rfl, rfl⟩
  trans hfirst hsecond hview := by
    obtain ⟨hview₁, hleft₁, hright₁⟩ := hfirst hview
    obtain ⟨hview₂, hleft₂, hright₂⟩ := hsecond hview₁
    exact ⟨hview₂, hleft₂.trans hleft₁, hright₂.trans hright₁⟩
  weaken _ hwalk := hwalk
  sight start func args left right hview := by
    have hleft := (Within.sight observer left start func args).outer
    have hright := (Within.sight observer right start func args).outer
    rw [sight_view, sight_view, hview]
    exact ⟨rfl, hleft, hright⟩
  bind name binding left right hview := by
    rw [view_bind, view_bind, hview]
    exact ⟨rfl, rfl, rfl⟩
  disturb name left right hview := by
    rw [view_bind, view_bind, hview]
    exact ⟨rfl, rfl, rfl⟩
  declare name hint start left right hview := by
    have hleft := (Within.assigned observer.types left name none hint start).outer
    have hright := (Within.assigned observer.types right name none hint start).outer
    have hassigned := assigned_of_view_eq hview observer.types name none hint start
    rw [view_bind, view_bind, hassigned.1, hassigned.2]
    exact ⟨rfl, hleft, hright⟩
  assign name value hint start left right next next' hnext hview := by
    have hleft := (Within.assigned observer.types left name value hint start).outer
    have hright := (Within.assigned observer.types right name value hint start).outer
    have hassigned := assigned_of_view_eq hview observer.types name value hint start
    rw [hassigned.1]
    obtain ⟨hview₁, hleft₁, hright₁⟩ := hnext _ _ _ hassigned.2
    exact ⟨hview₁, hleft₁.trans hleft, hright₁.trans hright⟩
  params start params scope left right next next' hnext hview := by
    have hleft := (Within.paramScope observer.types start params scope left).outer
    have hright := (Within.paramScope observer.types start params scope right).outer
    have hparams := paramScope_of_view_eq hview observer.types start params scope
    rw [hparams.1]
    obtain ⟨hview₁, hleft₁, hright₁⟩ := hnext _ _ _ hparams.2
    exact ⟨hview₁, hleft₁.trans hleft, hright₁.trans hright⟩
  scope scope left right left₁ right₁ hbody hview := by
    -- The scope that is left is on top of the scopes further out, so both walks come
    -- back to the scopes in which they started.
    obtain ⟨hview₁, hleft₁, hright₁⟩ := hbody (enter_of_view_eq hview scope)
    have hleft : left₁.leave = { left₁ with inner := left.inner, outer := left.outer } := by
      simp only [Surroundings.leave, hleft₁, Surroundings.enter]
    have hright : right₁.leave = { right₁ with inner := right.inner, outer := right.outer } := by
      simp only [Surroundings.leave, hright₁, Surroundings.enter]
    rw [hleft, hright]
    refine ⟨?_, rfl, rfl⟩
    simp only [view, Surroundings.mk.injEq] at hview hview₁ ⊢
    exact ⟨hview.1, hview.2.1, hview₁.2.2⟩

/-- The names of a class are not seen from a scope inside of it. -/
theorem walk_hides_class_names (observer : Observer σ) {state : Surroundings σ}
    (hclass : state.inner.isClass = true) (names : Table (Option Binding)) (scope : Scope)
    (node : Node) :
    (node.walk observer (state.enter scope)).view =
      (node.walk observer
        ({ state with inner := { state.inner with names } }.enter scope)).view := by
  have hview : (state.enter scope).view =
      ({ state with inner := { state.inner with names } }.enter scope).view := by
    simp [view, Surroundings.enter, hclass]
  exact ((sameView_closed observer).walkNode node _ _ hview).1

/-- Scopes are lexical.  A walk through any node leaves the scopes further out as they
are.  A function or a class changes the scope around it at its own name and at the names
bound by assignment expressions in its head at most, and its body has no part in that.
What a class binds is not seen in the scopes inside of it, such as those of its methods:
they bind the same names and meet the same calls whatever the names of the class are. -/
theorem walk_is_lexical (observer : Observer σ) (state : Surroundings σ) :
    (∀ node : Node, (node.walk observer state).outer = state.outer ∧
      (node.walk observer state).inner.isClass = state.inner.isClass) ∧
    (∀ definition : Definition,
      let after := definition.node.walk observer state
      (∀ name, definition.name? ≠ some name → name ∉ definition.headBinds →
        after.inner.names.get? name = state.inner.names.get? name) ∧
      after.inner = (definition.withoutBody.node.walk observer state).inner) ∧
    (state.inner.isClass = true → ∀ (names : Table (Option Binding)) (scope : Scope) (node : Node),
      let within := node.walk observer (state.enter scope)
      let other :=
        node.walk observer ({ state with inner := { state.inner with names } }.enter scope)
      within.inner = other.inner ∧ within.fresh = other.fresh ∧ within.seen = other.seen) := by
  refine ⟨?_, ?_, ?_⟩
  · intro node
    have hwithin := node.within observer state
    exact ⟨hwithin.outer, hwithin.isClass⟩
  · intro definition after
    constructor
    · intro name hown hhead
      have hwithin := definition.node.within observer state
      rw [definition.binds_node, definition.disturbs_node] at hwithin
      apply hwithin.kept name _ List.not_mem_nil
      simp only [List.mem_append, Option.mem_toList, not_or]
      exact ⟨hhead, hown⟩
    · exact definition.inner_walk observer state
  · intro hclass names scope node within other
    have hview : within.view = other.view := walk_hides_class_names observer hclass names scope node
    simp only [view, Surroundings.mk.injEq] at hview
    exact ⟨hview.1, hview.2.2⟩

/-- The surroundings in the body of a class after `router = Router()`. -/
def classSurroundings : Surroundings (List Sighting) :=
  walkStmt (.listing ["Router"])
    (.assign ⟨2, 4⟩ [.name "router"] (.call ⟨2, 13⟩ (.name "Router") [] []))
    ((Surroundings.initial []).enter (.empty true))

def rootCall : Node :=
  .expr (.call ⟨4, 8⟩ (.attribute (.name "router") "get") [.literal (.str "/" false)] [])

/-- The function `def show(page=(limit := 10)): router = None`. -/
def showFunction : Definition :=
  .function ⟨3, 4⟩ "show"
    (.mk [] [.mk "page" none (some (.named "limit" (.literal (.int ⟨10, rfl⟩))))] none [] none)
    [] none [.assign ⟨4, 8⟩ [.name "router"] (.literal .none)]

/-- In the body of the class the call is met, in a method of the class it is not, and a
method that binds the name leaves it alone in the class. -/
theorem walk_is_lexical_sample :
    let observer := Observer.listing ["Router"]
    (rootCall.walk observer classSurroundings).seen.length = 1 ∧
      (rootCall.walk observer (classSurroundings.enter (.empty false))).seen =
        (rootCall.walk observer
          ((Surroundings.initial []).enter (.empty true) |>.enter (.empty false))).seen ∧
      (showFunction.node.walk observer classSurroundings).inner.names.get? "router" =
        classSurroundings.inner.names.get? "router" := by
  intro observer
  have hlexical := walk_is_lexical observer classSurroundings
  refine ⟨rfl, ?_, ?_⟩
  · exact (hlexical.2.2 rfl [] (.empty false) rootCall).2.2
  · exact (hlexical.2.1 showFunction).1 "router" (by decide) (by decide)

end RouteScribe.Route
