import RouteScribe.Route.Binding
import RouteScribe.Source.Names

/-!
# Finding registrations

A program is walked through from front to back.  Assignments, annotations and
parameters bind names to routing objects, and calls of a method on such a name are
handed to the observer of the walk as they are met.
-/

namespace RouteScribe.Route

open RouteScribe.Source

variable {σ : Type}

def routeMethods : List String := ["get", "post", "put", "patch", "delete"]

/-- The name of a type, however it is written: with arguments, as an attribute, or
as a text. -/
def typeName : Expr → String
  | .subscript value _ => plainName value
  | expr => plainName expr
where
  plainName : Expr → String
    | .name id => id
    | .attribute _ member => member
    | .literal (.str text _) => text
    | _ => ""

def pathText? : Expr → Option String
  | .literal value => value.text?
  | _ => none

/-- The routing object that a value names already. -/
def Surroundings.shared (state : Surroundings σ) : Option Expr → Option Binding
  | some (.name id) => state.lookup id
  | _ => none

def isObjectType (types : List String) (value hint : Option Expr) : Bool :=
  let isMade :=
    match value with
    | some (.call _ func _ _) => types.contains (typeName func)
    | _ => false
  isMade || hint.any (types.contains <| typeName ·)

/-- What a name is bound to by an assignment: the object that the value names
already, or a new object if the value or the annotation has the type of one. -/
def Surroundings.assigned (types : List String) (state : Surroundings σ) (name : String)
    (value hint : Option Expr) (declaration : Option NodeStart) :
    Option Binding × Surroundings σ :=
  match state.shared value with
  | some binding => (some binding, state)
  | none =>
      if isObjectType types value hint then
        let (binding, state) := state.create name declaration
        (some binding, state)
      else (none, state)

/-- Notes a call if it is a method of a routing object. -/
def Surroundings.sight (observer : Observer σ) (state : Surroundings σ) (start : NodeStart)
    (func : Expr) (args : List Expr) : Surroundings σ :=
  match func with
  | .attribute (.name receiver) method =>
      match state.lookup receiver with
      | some binding =>
          if routeMethods.contains method then
            state.note observer { binding, method, path := args.head?.bind pathText?, start }
          else state
      | none => state
  | _ => state

/-- The scope of a function's parameters: those annotated with the type of a
routing object are bound to new ones. -/
def paramScope (types : List String) (declaration : NodeStart) :
    List Param → Scope → Surroundings σ → Scope × Surroundings σ
  | [], scope, state => (scope, state)
  | param :: params, scope, state =>
      if param.hint.any (types.contains <| typeName ·) then
        let (binding, state) := state.create param.name (some declaration)
        paramScope types declaration params
          { scope with names := scope.names.put param.name (some binding) } state
      else
        paramScope types declaration params
          { scope with names := scope.names.put param.name none } state

/-- The parameters of a function in the order in which they are bound. -/
def boundParams (params : Params) : List Param :=
  params.positionalOnly ++ params.positional ++ params.keywordOnly ++ params.rest.toList ++
    params.restKeywords.toList

/-- The scope of a function without a name: its parameters, other than those for
further arguments. -/
def lambdaScope (params : Params) : Scope :=
  let names := (params.positionalOnly ++ params.positional ++ params.keywordOnly).map Param.name
  { names := names.foldl (fun table name => table.put name none) [], isClass := false }

/-- The declaration of a function: its first decorator, or its own start. -/
def functionDeclaration (start : NodeStart) (decorators : List Decorator) : NodeStart :=
  (decorators.head?.map Decorator.start).getD start

mutual

def walkExpr (observer : Observer σ) : Expr → Surroundings σ → Surroundings σ
  | .literal _, state | .name _, state => state
  | .attribute value _, state | .unary _ value, state | .starred value, state
  | .await value, state | .yieldsFrom value, state => walkExpr observer value state
  | .subscript value index, state => walkExpr observer index (walkExpr observer value state)
  | .call start func args keywords, state =>
      walkKeywords observer keywords
        (walkAll observer args (walkExpr observer func (state.sight observer start func args)))
  | .named target value, state =>
      let (binding, state) :=
        (walkExpr observer value state).assigned observer.types target (some value) none none
      state.bind target binding
  | .lambda params body, state =>
      (walkExpr observer body ((walkParams observer params state).enter (lambdaScope params))).leave
  | .boolean _ values, state => walkAll observer values state
  | .binary left _ right, state => walkExpr observer right (walkExpr observer left state)
  | .conditional test body orElse, state =>
      walkExpr observer orElse (walkExpr observer body (walkExpr observer test state))
  | .compare left links, state => walkLinks observer links (walkExpr observer left state)
  | .tuple elements, state | .list elements, state | .set elements, state =>
      walkAll observer elements state
  | .dict entries, state => walkDictValues observer entries (walkDictKeys observer entries state)
  | .comprehension _ element clauses, state =>
      walkClauses observer clauses (walkExpr observer element state)
  | .dictComprehension key value clauses, state =>
      walkClauses observer clauses (walkExpr observer value (walkExpr observer key state))
  | .yields value, state => walkOption observer value state
  | .slice lower upper step, state =>
      walkOption observer step (walkOption observer upper (walkOption observer lower state))
  | .formatted parts, state => walkParts observer parts state

def walkAll (observer : Observer σ) : List Expr → Surroundings σ → Surroundings σ
  | [], state => state
  | expr :: exprs, state => walkAll observer exprs (walkExpr observer expr state)

def walkOption (observer : Observer σ) : Option Expr → Surroundings σ → Surroundings σ
  | none, state => state
  | some expr, state => walkExpr observer expr state

def walkKeywords (observer : Observer σ) : List Keyword → Surroundings σ → Surroundings σ
  | [], state => state
  | .mk _ value :: keywords, state => walkKeywords observer keywords (walkExpr observer value state)

def walkLinks (observer : Observer σ) : List CompareLink → Surroundings σ → Surroundings σ
  | [], state => state
  | .mk _ right :: links, state => walkLinks observer links (walkExpr observer right state)

def walkDictKeys (observer : Observer σ) : List DictEntry → Surroundings σ → Surroundings σ
  | [], state => state
  | .pair key _ :: entries, state => walkDictKeys observer entries (walkExpr observer key state)
  | .unpack _ :: entries, state => walkDictKeys observer entries state

def walkDictValues (observer : Observer σ) : List DictEntry → Surroundings σ → Surroundings σ
  | [], state => state
  | .pair _ value :: entries, state | .unpack value :: entries, state =>
      walkDictValues observer entries (walkExpr observer value state)

def walkClauses (observer : Observer σ) : List Clause → Surroundings σ → Surroundings σ
  | [], state => state
  | .mk _ target source conditions :: clauses, state =>
      walkClauses observer clauses
        (walkAll observer conditions (walkExpr observer source (walkExpr observer target state)))

def walkParts (observer : Observer σ) : List TextPart → Surroundings σ → Surroundings σ
  | [], state => state
  | .text _ :: parts, state => walkParts observer parts state
  | .field value _ format :: parts, state =>
      walkParts observer parts (walkFormat observer format (walkExpr observer value state))

def walkFormat (observer : Observer σ) : Option (List TextPart) → Surroundings σ → Surroundings σ
  | none, state => state
  | some parts, state => walkParts observer parts state

def walkHint (observer : Observer σ) : Param → Surroundings σ → Surroundings σ
  | .mk _ hint _, state => walkOption observer hint state

def walkHint? (observer : Observer σ) : Option Param → Surroundings σ → Surroundings σ
  | none, state => state
  | some param, state => walkHint observer param state

def walkHints (observer : Observer σ) : List Param → Surroundings σ → Surroundings σ
  | [], state => state
  | param :: params, state => walkHints observer params (walkHint observer param state)

def walkDefault (observer : Observer σ) : Param → Surroundings σ → Surroundings σ
  | .mk _ _ default, state => walkOption observer default state

def walkDefaults (observer : Observer σ) : List Param → Surroundings σ → Surroundings σ
  | [], state => state
  | param :: params, state => walkDefaults observer params (walkDefault observer param state)

/-- Walks through hints and defaults of parameters.  The defaults of positional
parameters come last. -/
def walkParams (observer : Observer σ) : Params → Surroundings σ → Surroundings σ
  | .mk positionalOnly positional rest keywordOnly restKeywords, state =>
      let state := walkHints observer positional (walkHints observer positionalOnly state)
      let state := walkHints observer keywordOnly (walkHint? observer rest state)
      let state := walkHint? observer restKeywords (walkDefaults observer keywordOnly state)
      walkDefaults observer positional (walkDefaults observer positionalOnly state)

end

mutual

def walkPattern (observer : Observer σ) : Pattern → Surroundings σ → Surroundings σ
  | .value expr, state => walkExpr observer expr state
  | .sequence patterns, state | .choice patterns, state => walkPatterns observer patterns state
  | .star _, state => state
  | .mapping keys patterns _, state => walkPatterns observer patterns (walkAll observer keys state)
  | .instanceOf type patterns _ named, state =>
      walkPatterns observer named (walkPatterns observer patterns (walkExpr observer type state))
  | .capture pattern _, state => walkPattern? observer pattern state

def walkPatterns (observer : Observer σ) : List Pattern → Surroundings σ → Surroundings σ
  | [], state => state
  | pattern :: patterns, state =>
      walkPatterns observer patterns (walkPattern observer pattern state)

def walkPattern? (observer : Observer σ) : Option Pattern → Surroundings σ → Surroundings σ
  | none, state => state
  | some pattern, state => walkPattern observer pattern state

end

def walkDecorators (observer : Observer σ) (decorators : List Decorator) (state : Surroundings σ) :
    Surroundings σ :=
  walkAll observer (decorators.map Decorator.expr) state

/-- Walks through the contexts of a block and what they are bound to. -/
def walkContexts (observer : Observer σ) :
    List (Expr × Option Expr) → Surroundings σ → Surroundings σ
  | [], state => state
  | (context, target) :: items, state =>
      walkContexts observer items (walkOption observer target (walkExpr observer context state))

def nameOf? : Expr → Option String
  | .name id => some id
  | _ => none

/-- Assigns to targets.  A plain name is bound; any name that stands in another
target is bound to nothing from then on. -/
def walkTargets (observer : Observer σ) (binding : Option Binding) :
    List Expr → Surroundings σ → Surroundings σ
  | [], state => state
  | .name id :: targets, state => walkTargets observer binding targets (state.bind id binding)
  | target :: targets, state =>
      walkTargets observer binding targets ((walkExpr observer target state).unbind target.names)

/-- Assigns a value to a chain of targets, which share one object. -/
def walkAssign (observer : Observer σ) (start : NodeStart) (targets : List Expr) (value : Expr)
    (state : Surroundings σ) : Surroundings σ :=
  let state := walkExpr observer value state
  match (targets.filterMap nameOf?).head? with
  | some name =>
      let (binding, state) := state.assigned observer.types name (some value) none (some start)
      walkTargets observer binding targets state
  | none => walkTargets observer none targets state

def walkAnnotated (observer : Observer σ) (start : NodeStart) (target hint : Expr)
    (value : Option Expr) (state : Surroundings σ) : Surroundings σ :=
  let state := walkOption observer value state
  match target with
  | .name id =>
      let (binding, state) := state.assigned observer.types id value (some hint) (some start)
      state.bind id binding
  | target => walkExpr observer target state

/-- Enters a function after its decorators, parameters and result type. -/
def enterFunction (observer : Observer σ) (start : NodeStart) (params : Params)
    (decorators : List Decorator) (result : Option Expr) (state : Surroundings σ) :
    Surroundings σ :=
  let state := walkParams observer params (walkDecorators observer decorators state)
  let state := walkOption observer result state
  let (scope, state) :=
    paramScope observer.types (functionDeclaration start decorators) (boundParams params)
      (.empty false) state
  state.enter scope

mutual

def walkStmt (observer : Observer σ) : Stmt → Surroundings σ → Surroundings σ
  | .expression value, state => walkExpr observer value state
  | .assign start targets value, state => walkAssign observer start targets value state
  | .annotated start target hint value, state =>
      walkAnnotated observer start target hint value state
  | .augmented target _ value, state => walkExpr observer value (walkExpr observer target state)
  | .typeAlias _ bounds value, state => walkExpr observer value (walkAll observer bounds state)
  | .delete targets, state => walkAll observer targets state
  | .returns value, state => walkOption observer value state
  | .raises exception cause, state =>
      walkOption observer cause (walkOption observer exception state)
  | .asserts test message, state => walkOption observer message (walkExpr observer test state)
  | .imports _, state | .importsFrom _ _, state | .declares _, state | .idle, state => state
  | .branch test body orElse, state | .whileLoop test body orElse, state =>
      walkStmts observer orElse (walkStmts observer body (walkExpr observer test state))
  | .forLoop target source body orElse, state =>
      let state := (walkExpr observer source state).unbind target.names
      walkStmts observer orElse (walkStmts observer body state)
  | .withBlock items body, state => walkStmts observer body (walkContexts observer items state)
  | .tryBlock body handlers orElse final, state =>
      let state := walkHandlers observer handlers (walkStmts observer body state)
      walkStmts observer final (walkStmts observer orElse state)
  | .matchBlock subject cases, state => walkCases observer cases (walkExpr observer subject state)
  | .function start name params decorators result body, state =>
      let inside := enterFunction observer start params decorators result state
      (walkStmts observer body inside).leave.bind name none
  | .classDef (.mk name bases keywords decorators body), state =>
      let state := walkAll observer bases (walkDecorators observer decorators state)
      let inside := (walkKeywords observer keywords state).enter (.empty true)
      (walkStmts observer body inside).leave.bind name none

def walkStmts (observer : Observer σ) : List Stmt → Surroundings σ → Surroundings σ
  | [], state => state
  | statement :: statements, state =>
      walkStmts observer statements (walkStmt observer statement state)

def walkHandlers (observer : Observer σ) : List Handler → Surroundings σ → Surroundings σ
  | [], state => state
  | .mk type _ body :: handlers, state =>
      walkHandlers observer handlers (walkStmts observer body (walkOption observer type state))

def walkCases (observer : Observer σ) : List Case → Surroundings σ → Surroundings σ
  | [], state => state
  | .mk pattern guard body :: cases, state =>
      let state := walkOption observer guard (walkPattern observer pattern state)
      walkCases observer cases (walkStmts observer body state)

end

end RouteScribe.Route
