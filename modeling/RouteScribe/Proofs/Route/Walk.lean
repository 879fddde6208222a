import RouteScribe.Proofs.Source.Binds
import RouteScribe.Route.Sighting

/-!
# Induction over walks

A walk through a program is made of a few steps: it meets a call, binds a name, makes
an object, enters a scope and leaves it.  What holds of these steps and carries over
from two walks to the walk that does one after the other holds of the walk through
any expression, pattern or statement.  The induction over the syntax is done here
once, for two walks side by side.
-/

namespace RouteScribe.Route

open RouteScribe.Source

variable {σ τ : Type}

/-- A relation between the starts and the ends of two walks, given the names that the
walks bind in their own scope and those that they disturb. -/
abbrev WalkRelation (σ τ : Type) :=
  List String → List String → Surroundings σ → Surroundings τ → Surroundings σ →
    Surroundings τ → Prop

/-- A relation that the steps of a walk keep. -/
structure WalkRelation.Closed (holds : WalkRelation σ τ) (observer : Observer σ)
    (other : Observer τ) : Prop where
  refl : ∀ left right, holds [] [] left right left right
  trans : ∀ {binds moreBinds disturbs moreDisturbs left right left₁ right₁ left₂ right₂},
    holds binds disturbs left right left₁ right₁ →
    holds moreBinds moreDisturbs left₁ right₁ left₂ right₂ →
    holds (binds ++ moreBinds) (disturbs ++ moreDisturbs) left right left₂ right₂
  /-- More names may count as bound. -/
  weaken : ∀ {binds moreBinds disturbs left right left₁ right₁}, binds ⊆ moreBinds →
    holds binds disturbs left right left₁ right₁ →
    holds moreBinds disturbs left right left₁ right₁
  sight : ∀ start func args left right, holds [] [] left right
    (left.sight observer start func args) (right.sight other start func args)
  bind : ∀ name binding left right,
    holds [name] [] left right (left.bind name binding) (right.bind name binding)
  /-- A name that is bound to nothing. -/
  disturb : ∀ name left right,
    holds [] [name] left right (left.bind name none) (right.bind name none)
  /-- A name with an annotation and without a value. -/
  declare : ∀ name hint start left right, holds [] [name] left right
    ((left.assigned observer.types name none hint start).2.bind name
      (left.assigned observer.types name none hint start).1)
    ((right.assigned other.types name none hint start).2.bind name
      (right.assigned other.types name none hint start).1)
  /-- What follows an assignment knows the object that was assigned. -/
  assign : ∀ {binds disturbs} name value hint start left right
    (next : Option Binding → Surroundings σ → Surroundings σ)
    (next' : Option Binding → Surroundings τ → Surroundings τ),
    (∀ binding left₁ right₁,
      holds binds disturbs left₁ right₁ (next binding left₁) (next' binding right₁)) →
    holds binds disturbs left right
      (next (left.assigned observer.types name value hint start).1
        (left.assigned observer.types name value hint start).2)
      (next' (right.assigned other.types name value hint start).1
        (right.assigned other.types name value hint start).2)
  /-- What follows the parameters of a function knows their scope. -/
  params : ∀ {binds disturbs} start params scope left right
    (next : Scope → Surroundings σ → Surroundings σ)
    (next' : Scope → Surroundings τ → Surroundings τ),
    (∀ scope left₁ right₁,
      holds binds disturbs left₁ right₁ (next scope left₁) (next' scope right₁)) →
    holds binds disturbs left right
      (next (paramScope observer.types start params scope left).1
        (paramScope observer.types start params scope left).2)
      (next' (paramScope other.types start params scope right).1
        (paramScope other.types start params scope right).2)
  /-- What is bound in an inner scope is bound in that scope only. -/
  scope : ∀ {binds disturbs} scope {left right left₁ right₁},
    holds binds disturbs (left.enter scope) (right.enter scope) left₁ right₁ →
    holds [] [] left right left₁.leave right₁.leave

namespace WalkRelation.Closed

variable {holds : WalkRelation σ τ} {observer : Observer σ} {other : Observer τ}

-- Each case puts the walks through the parts of a node together in the order in which
-- the walk goes through them.
mutual

/-- A closed relation between walks holds of every expression. -/
theorem walkExpr (hclosed : holds.Closed observer other) (expr : Expr) (left : Surroundings σ)
    (right : Surroundings τ) :
    holds expr.binds [] left right (Route.walkExpr observer expr left)
      (Route.walkExpr other expr right) := by
  match expr with
  | .literal _ | .name _ =>
      simp only [Route.walkExpr, Expr.binds]
      exact hclosed.refl left right
  | .attribute value _ | .unary _ value | .starred value | .await value | .yieldsFrom value =>
      simp only [Route.walkExpr, Expr.binds]
      exact hclosed.walkExpr value left right
  | .subscript value index =>
      simp only [Route.walkExpr, Expr.binds]
      exact hclosed.trans (hclosed.walkExpr value _ _) (hclosed.walkExpr index _ _)
  | .call start func args keywords =>
      simp only [Route.walkExpr, Expr.binds]
      have hfunc := hclosed.trans (hclosed.sight start func args left right)
        (hclosed.walkExpr func _ _)
      have hargs := hclosed.trans hfunc (hclosed.walkAll args _ _)
      exact hclosed.trans hargs (hclosed.walkKeywords keywords _ _)
  | .named target value =>
      simp only [Route.walkExpr, Expr.binds]
      refine hclosed.trans (hclosed.walkExpr value _ _) ?_
      exact hclosed.assign target (some value) none none _ _
        (fun binding state => state.bind target binding)
        (fun binding state => state.bind target binding) (hclosed.bind target)
  | .lambda params body =>
      simp only [Route.walkExpr, Expr.binds]
      have hbody := hclosed.scope (lambdaScope params)
        (hclosed.walkExpr body ((Route.walkParams observer params left).enter _)
          ((Route.walkParams other params right).enter _))
      simpa only [List.append_nil] using hclosed.trans (hclosed.walkParams params _ _) hbody
  | .boolean _ values =>
      simp only [Route.walkExpr, Expr.binds]
      exact hclosed.walkAll values _ _
  | .binary first _ second =>
      simp only [Route.walkExpr, Expr.binds]
      exact hclosed.trans (hclosed.walkExpr first _ _) (hclosed.walkExpr second _ _)
  | .conditional test body orElse =>
      simp only [Route.walkExpr, Expr.binds]
      have hbody := hclosed.trans (hclosed.walkExpr test left right) (hclosed.walkExpr body _ _)
      exact hclosed.trans hbody (hclosed.walkExpr orElse _ _)
  | .compare first links =>
      simp only [Route.walkExpr, Expr.binds]
      exact hclosed.trans (hclosed.walkExpr first _ _) (hclosed.walkLinks links _ _)
  | .tuple elements | .list elements | .set elements =>
      simp only [Route.walkExpr, Expr.binds]
      exact hclosed.walkAll elements _ _
  | .dict entries =>
      simp only [Route.walkExpr, Expr.binds]
      exact hclosed.trans (hclosed.walkDictKeys entries _ _) (hclosed.walkDictValues entries _ _)
  | .comprehension _ element clauses =>
      simp only [Route.walkExpr, Expr.binds]
      exact hclosed.trans (hclosed.walkExpr element _ _) (hclosed.walkClauses clauses _ _)
  | .dictComprehension key value clauses =>
      simp only [Route.walkExpr, Expr.binds]
      have hvalue := hclosed.trans (hclosed.walkExpr key left right) (hclosed.walkExpr value _ _)
      exact hclosed.trans hvalue (hclosed.walkClauses clauses _ _)
  | .yields value =>
      simp only [Route.walkExpr, Expr.binds]
      exact hclosed.walkOption value _ _
  | .slice lower upper step =>
      simp only [Route.walkExpr, Expr.binds]
      have hupper := hclosed.trans (hclosed.walkOption lower left right)
        (hclosed.walkOption upper _ _)
      exact hclosed.trans hupper (hclosed.walkOption step _ _)
  | .formatted parts =>
      simp only [Route.walkExpr, Expr.binds]
      exact hclosed.walkParts parts _ _

theorem walkAll (hclosed : holds.Closed observer other) (exprs : List Expr)
    (left : Surroundings σ) (right : Surroundings τ) :
    holds (bindsInAll exprs) [] left right (Route.walkAll observer exprs left)
      (Route.walkAll other exprs right) := by
  match exprs with
  | [] => exact hclosed.refl left right
  | expr :: exprs =>
      simp only [Route.walkAll, bindsInAll]
      exact hclosed.trans (hclosed.walkExpr expr _ _) (hclosed.walkAll exprs _ _)

theorem walkOption (hclosed : holds.Closed observer other) (expr : Option Expr)
    (left : Surroundings σ) (right : Surroundings τ) :
    holds (bindsInOption expr) [] left right (Route.walkOption observer expr left)
      (Route.walkOption other expr right) := by
  match expr with
  | none => exact hclosed.refl left right
  | some expr =>
      simp only [Route.walkOption, bindsInOption]
      exact hclosed.walkExpr expr _ _

theorem walkKeywords (hclosed : holds.Closed observer other) (keywords : List Keyword)
    (left : Surroundings σ) (right : Surroundings τ) :
    holds (bindsInKeywords keywords) [] left right (Route.walkKeywords observer keywords left)
      (Route.walkKeywords other keywords right) := by
  match keywords with
  | [] => exact hclosed.refl left right
  | .mk _ value :: keywords =>
      simp only [Route.walkKeywords, bindsInKeywords]
      exact hclosed.trans (hclosed.walkExpr value _ _) (hclosed.walkKeywords keywords _ _)

theorem walkLinks (hclosed : holds.Closed observer other) (links : List CompareLink)
    (left : Surroundings σ) (right : Surroundings τ) :
    holds (bindsInLinks links) [] left right (Route.walkLinks observer links left)
      (Route.walkLinks other links right) := by
  match links with
  | [] => exact hclosed.refl left right
  | .mk _ operand :: links =>
      simp only [Route.walkLinks, bindsInLinks]
      exact hclosed.trans (hclosed.walkExpr operand _ _) (hclosed.walkLinks links _ _)

theorem walkDictKeys (hclosed : holds.Closed observer other) (entries : List DictEntry)
    (left : Surroundings σ) (right : Surroundings τ) :
    holds (bindsInDictKeys entries) [] left right (Route.walkDictKeys observer entries left)
      (Route.walkDictKeys other entries right) := by
  match entries with
  | [] => exact hclosed.refl left right
  | .pair key _ :: entries =>
      simp only [Route.walkDictKeys, bindsInDictKeys]
      exact hclosed.trans (hclosed.walkExpr key _ _) (hclosed.walkDictKeys entries _ _)
  | .unpack _ :: entries =>
      simp only [Route.walkDictKeys, bindsInDictKeys]
      exact hclosed.walkDictKeys entries _ _

theorem walkDictValues (hclosed : holds.Closed observer other) (entries : List DictEntry)
    (left : Surroundings σ) (right : Surroundings τ) :
    holds (bindsInDictValues entries) [] left right (Route.walkDictValues observer entries left)
      (Route.walkDictValues other entries right) := by
  match entries with
  | [] => exact hclosed.refl left right
  | .pair _ value :: entries | .unpack value :: entries =>
      simp only [Route.walkDictValues, bindsInDictValues]
      exact hclosed.trans (hclosed.walkExpr value _ _) (hclosed.walkDictValues entries _ _)

theorem walkClauses (hclosed : holds.Closed observer other) (clauses : List Clause)
    (left : Surroundings σ) (right : Surroundings τ) :
    holds (bindsInClauses clauses) [] left right (Route.walkClauses observer clauses left)
      (Route.walkClauses other clauses right) := by
  match clauses with
  | [] => exact hclosed.refl left right
  | .mk _ target source conditions :: clauses =>
      simp only [Route.walkClauses, bindsInClauses]
      have hsource := hclosed.trans (hclosed.walkExpr target left right)
        (hclosed.walkExpr source _ _)
      have hconditions := hclosed.trans hsource (hclosed.walkAll conditions _ _)
      exact hclosed.trans hconditions (hclosed.walkClauses clauses _ _)

theorem walkParts (hclosed : holds.Closed observer other) (parts : List TextPart)
    (left : Surroundings σ) (right : Surroundings τ) :
    holds (bindsInParts parts) [] left right (Route.walkParts observer parts left)
      (Route.walkParts other parts right) := by
  match parts with
  | [] => exact hclosed.refl left right
  | .text _ :: parts =>
      simp only [Route.walkParts, bindsInParts]
      exact hclosed.walkParts parts _ _
  | .field value _ format :: parts =>
      simp only [Route.walkParts, bindsInParts]
      have hformat := hclosed.trans (hclosed.walkExpr value left right)
        (hclosed.walkFormat format _ _)
      exact hclosed.trans hformat (hclosed.walkParts parts _ _)

theorem walkFormat (hclosed : holds.Closed observer other) (format : Option (List TextPart))
    (left : Surroundings σ) (right : Surroundings τ) :
    holds (bindsInFormat format) [] left right (Route.walkFormat observer format left)
      (Route.walkFormat other format right) := by
  match format with
  | none => exact hclosed.refl left right
  | some parts =>
      simp only [Route.walkFormat, bindsInFormat]
      exact hclosed.walkParts parts _ _

theorem walkHint (hclosed : holds.Closed observer other) (param : Param)
    (left : Surroundings σ) (right : Surroundings τ) :
    holds param.hintBinds [] left right (Route.walkHint observer param left)
      (Route.walkHint other param right) := by
  match param with
  | .mk _ hint _ =>
      simp only [Route.walkHint, Param.hintBinds]
      exact hclosed.walkOption hint _ _

theorem walkHint? (hclosed : holds.Closed observer other) (param : Option Param)
    (left : Surroundings σ) (right : Surroundings τ) :
    holds (bindsInHint? param) [] left right (Route.walkHint? observer param left)
      (Route.walkHint? other param right) := by
  match param with
  | none => exact hclosed.refl left right
  | some param =>
      simp only [Route.walkHint?, bindsInHint?]
      exact hclosed.walkHint param _ _

theorem walkHints (hclosed : holds.Closed observer other) (params : List Param)
    (left : Surroundings σ) (right : Surroundings τ) :
    holds (bindsInHints params) [] left right (Route.walkHints observer params left)
      (Route.walkHints other params right) := by
  match params with
  | [] => exact hclosed.refl left right
  | param :: params =>
      simp only [Route.walkHints, bindsInHints]
      exact hclosed.trans (hclosed.walkHint param _ _) (hclosed.walkHints params _ _)

theorem walkDefault (hclosed : holds.Closed observer other) (param : Param)
    (left : Surroundings σ) (right : Surroundings τ) :
    holds param.defaultBinds [] left right (Route.walkDefault observer param left)
      (Route.walkDefault other param right) := by
  match param with
  | .mk _ _ default =>
      simp only [Route.walkDefault, Param.defaultBinds]
      exact hclosed.walkOption default _ _

theorem walkDefaults (hclosed : holds.Closed observer other) (params : List Param)
    (left : Surroundings σ) (right : Surroundings τ) :
    holds (bindsInDefaults params) [] left right (Route.walkDefaults observer params left)
      (Route.walkDefaults other params right) := by
  match params with
  | [] => exact hclosed.refl left right
  | param :: params =>
      simp only [Route.walkDefaults, bindsInDefaults]
      exact hclosed.trans (hclosed.walkDefault param _ _) (hclosed.walkDefaults params _ _)

theorem walkParams (hclosed : holds.Closed observer other) (params : Params)
    (left : Surroundings σ) (right : Surroundings τ) :
    holds params.binds [] left right (Route.walkParams observer params left)
      (Route.walkParams other params right) := by
  match params with
  | .mk positionalOnly positional rest keywordOnly restKeywords =>
      simp only [Route.walkParams, Params.binds]
      have hpositional := hclosed.trans (hclosed.walkHints positionalOnly left right)
        (hclosed.walkHints positional _ _)
      have hrest := hclosed.trans hpositional (hclosed.walkHint? rest _ _)
      have hkeywords := hclosed.trans hrest (hclosed.walkHints keywordOnly _ _)
      have hdefaults := hclosed.trans hkeywords (hclosed.walkDefaults keywordOnly _ _)
      have hrestKeywords := hclosed.trans hdefaults (hclosed.walkHint? restKeywords _ _)
      have honly := hclosed.trans hrestKeywords (hclosed.walkDefaults positionalOnly _ _)
      exact hclosed.trans honly (hclosed.walkDefaults positional _ _)

end

theorem unbind (hclosed : holds.Closed observer other) (names : List String)
    (left : Surroundings σ) (right : Surroundings τ) :
    holds [] names left right (left.unbind names) (right.unbind names) := by
  induction names generalizing left right with
  | nil => exact hclosed.refl left right
  | cons name names ih => exact hclosed.trans (hclosed.disturb name left right) (ih _ _)

mutual

/-- A closed relation between walks holds of every pattern. -/
theorem walkPattern (hclosed : holds.Closed observer other) (pattern : Pattern)
    (left : Surroundings σ) (right : Surroundings τ) :
    holds pattern.binds [] left right (Route.walkPattern observer pattern left)
      (Route.walkPattern other pattern right) := by
  match pattern with
  | .value expr =>
      simp only [Route.walkPattern, Pattern.binds]
      exact hclosed.walkExpr expr _ _
  | .sequence patterns | .choice patterns =>
      simp only [Route.walkPattern, Pattern.binds]
      exact hclosed.walkPatterns patterns _ _
  | .star name =>
      simp only [Route.walkPattern, Pattern.binds]
      exact hclosed.refl left right
  | .mapping keys patterns rest =>
      simp only [Route.walkPattern, Pattern.binds]
      exact hclosed.trans (hclosed.walkAll keys _ _) (hclosed.walkPatterns patterns _ _)
  | .instanceOf type patterns _ named =>
      simp only [Route.walkPattern, Pattern.binds]
      have hpatterns := hclosed.trans (hclosed.walkExpr type left right)
        (hclosed.walkPatterns patterns _ _)
      exact hclosed.trans hpatterns (hclosed.walkPatterns named _ _)
  | .capture pattern name =>
      simp only [Route.walkPattern, Pattern.binds]
      exact hclosed.walkPattern? pattern _ _

theorem walkPatterns (hclosed : holds.Closed observer other) (patterns : List Pattern)
    (left : Surroundings σ) (right : Surroundings τ) :
    holds (bindsInPatterns patterns) [] left right (Route.walkPatterns observer patterns left)
      (Route.walkPatterns other patterns right) := by
  match patterns with
  | [] => exact hclosed.refl left right
  | pattern :: patterns =>
      simp only [Route.walkPatterns, bindsInPatterns]
      exact hclosed.trans (hclosed.walkPattern pattern _ _) (hclosed.walkPatterns patterns _ _)

theorem walkPattern? (hclosed : holds.Closed observer other) (pattern : Option Pattern)
    (left : Surroundings σ) (right : Surroundings τ) :
    holds (bindsInPattern? pattern) [] left right (Route.walkPattern? observer pattern left)
      (Route.walkPattern? other pattern right) := by
  match pattern with
  | none => exact hclosed.refl left right
  | some pattern =>
      simp only [Route.walkPattern?, bindsInPattern?]
      exact hclosed.walkPattern pattern _ _

end

theorem walkDecorators (hclosed : holds.Closed observer other) (decorators : List Decorator)
    (left : Surroundings σ) (right : Surroundings τ) :
    holds (bindsInDecorators decorators) [] left right
      (Route.walkDecorators observer decorators left)
      (Route.walkDecorators other decorators right) :=
  hclosed.walkAll _ left right

theorem walkContexts (hclosed : holds.Closed observer other)
    (items : List (Expr × Option Expr)) (left : Surroundings σ) (right : Surroundings τ) :
    holds (bindsInContexts items) [] left right (Route.walkContexts observer items left)
      (Route.walkContexts other items right) := by
  induction items generalizing left right with
  | nil => exact hclosed.refl left right
  | cons item items ih =>
      obtain ⟨context, target⟩ := item
      simp only [Route.walkContexts, bindsInContexts]
      have htarget := hclosed.trans (hclosed.walkExpr context left right)
        (hclosed.walkOption target _ _)
      refine hclosed.weaken ?_ (hclosed.trans htarget (ih _ _))
      -- The targets are bound by the language but not by the walk.
      intro name hname
      simp only [List.mem_append] at hname ⊢
      grind

/-- A closed relation between walks holds of every list of targets. -/
theorem walkTargets (hclosed : holds.Closed observer other) (binding : Option Binding)
    (targets : List Expr) (left : Surroundings σ) (right : Surroundings τ) :
    holds (bindsInTargets targets) (disturbedByTargets targets) left right
      (Route.walkTargets observer binding targets left)
      (Route.walkTargets other binding targets right) := by
  fun_induction disturbedByTargets targets generalizing left right with
  | case1 => exact hclosed.refl left right
  | case2 id targets ih =>
      exact hclosed.trans (hclosed.bind id binding left right) (ih _ _)
  | case3 target targets hplain ih =>
      rw [Route.walkTargets.eq_3 _ _ _ _ _ hplain, Route.walkTargets.eq_3 _ _ _ _ _ hplain]
      have htarget := hclosed.trans (hclosed.walkExpr target left right)
        (hclosed.unbind target.names _ _)
      refine hclosed.trans (hclosed.weaken ?_ htarget) (ih _ _)
      intro name hname
      simp only [List.mem_append] at hname ⊢
      grind

/-- A closed relation between walks holds of an assignment with its targets. -/
theorem walkAssign (hclosed : holds.Closed observer other) (start : NodeStart)
    (targets : List Expr) (value : Expr) (left : Surroundings σ) (right : Surroundings τ) :
    holds (value.binds ++ bindsInTargets targets) (disturbedByTargets targets) left right
      (Route.walkAssign observer start targets value left)
      (Route.walkAssign other start targets value right) := by
  unfold Route.walkAssign
  have hvalue := hclosed.walkExpr value left right
  cases (targets.filterMap nameOf?).head? with
  | none => exact hclosed.trans hvalue (hclosed.walkTargets none targets _ _)
  | some name =>
      refine hclosed.trans hvalue ?_
      exact hclosed.assign name (some value) none (some start) _ _
        (fun binding state => Route.walkTargets observer binding targets state)
        (fun binding state => Route.walkTargets other binding targets state)
        (fun binding _ _ => hclosed.walkTargets binding targets _ _)

theorem walkAnnotated (hclosed : holds.Closed observer other) (start : NodeStart)
    (target hint : Expr) (value : Option Expr) (left : Surroundings σ)
    (right : Surroundings τ) :
    holds (Stmt.annotated start target hint value).binds
      (Stmt.annotated start target hint value).disturbs left right
      (Route.walkAnnotated observer start target hint value left)
      (Route.walkAnnotated other start target hint value right) := by
  unfold Route.walkAnnotated
  split
  · rename_i id
    cases value with
    | none =>
        exact hclosed.weaken (List.nil_subset _)
          (hclosed.declare id (some hint) (some start) left right)
    | some value =>
        refine hclosed.weaken ?_ (hclosed.trans (hclosed.walkExpr value left right)
          (hclosed.assign id (some value) (some hint) (some start) _ _
            (fun binding state => state.bind id binding)
            (fun binding state => state.bind id binding) (hclosed.bind id)))
        intro name hname
        simp only [Stmt.binds, bindsInOption, Expr.plainName, List.mem_append] at hname ⊢
        grind
  · rename_i hplain
    have htarget := hclosed.trans (hclosed.walkOption value left right)
      (hclosed.walkExpr target _ _)
    have hname : target.plainName = [] := Expr.plainName.eq_2 target hplain
    have hdisturbs : (Stmt.annotated start target hint value).disturbs = [] := by
      cases value with
      | none => simp only [Stmt.disturbs, hname]
      | some value => simp only [Stmt.disturbs]
    rw [hdisturbs]
    refine hclosed.weaken ?_ htarget
    intro name hname
    simp only [Stmt.binds, List.mem_append] at hname ⊢
    grind

theorem walkFunctionHead (hclosed : holds.Closed observer other) (params : Params)
    (decorators : List Decorator) (result : Option Expr) (left : Surroundings σ)
    (right : Surroundings τ) :
    holds (bindsInDecorators decorators ++ params.binds ++ bindsInOption result) [] left right
      (Route.walkOption observer result
        (Route.walkParams observer params (Route.walkDecorators observer decorators left)))
      (Route.walkOption other result
        (Route.walkParams other params (Route.walkDecorators other decorators right))) := by
  have hparams := hclosed.trans (hclosed.walkDecorators decorators left right)
    (hclosed.walkParams params _ _)
  exact hclosed.trans hparams (hclosed.walkOption result _ _)

mutual

/-- A closed relation between walks holds of every statement. -/
theorem walkStmt (hclosed : holds.Closed observer other) (statement : Stmt)
    (left : Surroundings σ) (right : Surroundings τ) :
    holds statement.binds statement.disturbs left right
      (Route.walkStmt observer statement left) (Route.walkStmt other statement right) := by
  match statement with
  | .expression value =>
      simp only [Route.walkStmt, Stmt.binds, Stmt.disturbs]
      exact hclosed.walkExpr value _ _
  | .assign start targets value =>
      simp only [Route.walkStmt, Stmt.binds, Stmt.disturbs]
      exact hclosed.walkAssign start targets value _ _
  | .annotated start target hint value =>
      simp only [Route.walkStmt]
      exact hclosed.walkAnnotated start target hint value _ _
  | .augmented target _ value =>
      simp only [Route.walkStmt, Stmt.binds, Stmt.disturbs]
      exact hclosed.weaken (List.subset_append_left _ _)
        (hclosed.trans (hclosed.walkExpr target _ _) (hclosed.walkExpr value _ _))
  | .typeAlias _ bounds value =>
      simp only [Route.walkStmt, Stmt.binds, Stmt.disturbs]
      exact hclosed.weaken (List.subset_append_left _ _)
        (hclosed.trans (hclosed.walkAll bounds _ _) (hclosed.walkExpr value _ _))
  | .delete targets =>
      simp only [Route.walkStmt, Stmt.binds, Stmt.disturbs]
      exact hclosed.walkAll targets _ _
  | .returns value =>
      simp only [Route.walkStmt, Stmt.binds, Stmt.disturbs]
      exact hclosed.walkOption value _ _
  | .raises exception cause =>
      simp only [Route.walkStmt, Stmt.binds, Stmt.disturbs]
      exact hclosed.trans (hclosed.walkOption exception _ _) (hclosed.walkOption cause _ _)
  | .asserts test message =>
      simp only [Route.walkStmt, Stmt.binds, Stmt.disturbs]
      exact hclosed.trans (hclosed.walkExpr test _ _) (hclosed.walkOption message _ _)
  | .imports _ | .importsFrom _ _ | .declares _ | .idle =>
      simp only [Route.walkStmt, Stmt.disturbs]
      exact hclosed.weaken (List.nil_subset _) (hclosed.refl left right)
  | .branch test body orElse | .whileLoop test body orElse =>
      simp only [Route.walkStmt, Stmt.binds, Stmt.disturbs]
      have hbody := hclosed.trans (hclosed.walkExpr test left right) (hclosed.walkStmts body _ _)
      exact hclosed.trans hbody (hclosed.walkStmts orElse _ _)
  | .forLoop target source body orElse =>
      simp only [Route.walkStmt, Stmt.binds, Stmt.disturbs]
      have htarget := hclosed.weaken (List.nil_subset (target.stored ++ target.binds))
        (hclosed.unbind target.names (Route.walkExpr observer source left)
          (Route.walkExpr other source right))
      have hhead := hclosed.trans (hclosed.walkExpr source left right) htarget
      exact hclosed.trans (hclosed.trans hhead (hclosed.walkStmts body _ _))
        (hclosed.walkStmts orElse _ _)
  | .withBlock items body =>
      simp only [Route.walkStmt, Stmt.binds, Stmt.disturbs]
      exact hclosed.trans (hclosed.walkContexts items _ _) (hclosed.walkStmts body _ _)
  | .tryBlock body handlers orElse final =>
      simp only [Route.walkStmt, Stmt.binds, Stmt.disturbs]
      have hhandlers := hclosed.trans (hclosed.walkStmts body left right)
        (hclosed.walkHandlers handlers _ _)
      have helse := hclosed.trans hhandlers (hclosed.walkStmts orElse _ _)
      exact hclosed.trans helse (hclosed.walkStmts final _ _)
  | .matchBlock subject cases =>
      simp only [Route.walkStmt, Stmt.binds, Stmt.disturbs]
      exact hclosed.trans (hclosed.walkExpr subject _ _) (hclosed.walkCases cases _ _)
  | .function start name params decorators result body =>
      simp only [Route.walkStmt, enterFunction, Stmt.binds, Stmt.disturbs]
      have hbody := hclosed.params (functionDeclaration start decorators) (boundParams params)
        (.empty false)
        (Route.walkOption observer result
          (Route.walkParams observer params (Route.walkDecorators observer decorators left)))
        (Route.walkOption other result
          (Route.walkParams other params (Route.walkDecorators other decorators right)))
        (fun scope state => (Route.walkStmts observer body (state.enter scope)).leave)
        (fun scope state => (Route.walkStmts other body (state.enter scope)).leave)
        (fun scope _ _ => hclosed.scope scope (hclosed.walkStmts body _ _))
      have hfunction := hclosed.trans
        (hclosed.walkFunctionHead params decorators result left right) hbody
      rw [List.append_nil] at hfunction
      exact hclosed.trans hfunction (hclosed.bind name none _ _)
  | .classDef (.mk name bases keywords decorators body) =>
      simp only [Route.walkStmt, Stmt.binds, Stmt.disturbs]
      have hbases := hclosed.trans (hclosed.walkDecorators decorators left right)
        (hclosed.walkAll bases _ _)
      have hhead := hclosed.trans hbases (hclosed.walkKeywords keywords _ _)
      have hbody := hclosed.trans hhead
        (hclosed.scope (.empty true) (hclosed.walkStmts body _ _))
      rw [List.append_nil] at hbody
      exact hclosed.trans hbody (hclosed.bind name none _ _)

theorem walkStmts (hclosed : holds.Closed observer other) (statements : List Stmt)
    (left : Surroundings σ) (right : Surroundings τ) :
    holds (bindsInStmts statements) (disturbedByStmts statements) left right
      (Route.walkStmts observer statements left) (Route.walkStmts other statements right) := by
  match statements with
  | [] => exact hclosed.refl left right
  | statement :: statements =>
      simp only [Route.walkStmts, bindsInStmts, disturbedByStmts]
      exact hclosed.trans (hclosed.walkStmt statement _ _) (hclosed.walkStmts statements _ _)

/-- A closed relation between walks holds of every list of handlers. -/
theorem walkHandlers (hclosed : holds.Closed observer other) (handlers : List Handler)
    (left : Surroundings σ) (right : Surroundings τ) :
    holds (bindsInHandlers handlers) (disturbedByHandlers handlers) left right
      (Route.walkHandlers observer handlers left) (Route.walkHandlers other handlers right) := by
  match handlers with
  | [] => exact hclosed.refl left right
  | .mk type name body :: handlers =>
      simp only [Route.walkHandlers, bindsInHandlers, disturbedByHandlers]
      have htype := hclosed.weaken (List.subset_append_left _ name.toList)
        (hclosed.walkOption type left right)
      have hbody := hclosed.trans htype (hclosed.walkStmts body _ _)
      exact hclosed.trans hbody (hclosed.walkHandlers handlers _ _)

/-- A closed relation between walks holds of every list of cases. -/
theorem walkCases (hclosed : holds.Closed observer other) (cases : List Case)
    (left : Surroundings σ) (right : Surroundings τ) :
    holds (bindsInCases cases) (disturbedByCases cases) left right
      (Route.walkCases observer cases left) (Route.walkCases other cases right) := by
  match cases with
  | [] => exact hclosed.refl left right
  | .mk pattern guard body :: cases =>
      simp only [Route.walkCases, bindsInCases, disturbedByCases]
      have hpattern := hclosed.weaken (List.subset_append_left _ pattern.captures)
        (hclosed.walkPattern pattern left right)
      have hguard := hclosed.trans hpattern (hclosed.walkOption guard _ _)
      have hbody := hclosed.trans hguard (hclosed.walkStmts body _ _)
      exact hclosed.trans hbody (hclosed.walkCases cases _ _)

end

end WalkRelation.Closed

end RouteScribe.Route
