import RouteScribe.Source.Grammar.Pattern

/-!
# The grammar of statements

Simple statements share a line, separated by semicolons.  Compound statements
have a block, which is either an indented sequence of statements or the rest of
the line.
-/

namespace RouteScribe.Source.Rule

variable (rules : Rules)

def assignedValue : Rule Expr := do
  if ← nextIsKeyword "yield" then yieldExpression rules else starExpressions rules

/-- Operators that can be combined with an assignment. -/
def augmentedOps : List BinaryOp :=
  [.add, .sub, .mult, .matMult, .div, .mod, .bitAnd, .bitOr, .bitXor, .lShift, .rShift, .pow,
    .floorDiv]

/-- An operator combined with an assignment. -/
def augmentedOp : Rule BinaryOp :=
  firstOf (augmentedOps.map fun op => do symbol (op.symbol ++ "="); return op)

/-- The rest of a chain of assignments after its first equals sign: the further
targets and the value. -/
def assignmentChain : Rule (List Expr × Expr) := do
  let values ← separated "=" (assignedValue rules)
  match values.reverse with
  | value :: targets =>
      check (targets.all Expr.isTarget)
      return (targets.reverse, value)
  | [] => failure

def expressionStatement : Rule Stmt := do
  let start ← here
  let first ← assignedValue rules
  if ← takeSymbol "=" then
    check first.isTarget
    let (targets, value) ← assignmentChain rules
    return .assign start (first :: targets) value
  if ← takeSymbol ":" then
    check first.isSingleTarget
    let hint ← expression rules
    let value ← if ← takeSymbol "=" then some <$> assignedValue rules else pure none
    return .annotated start first hint value
  match ← maybe augmentedOp with
  | some op =>
      check first.isSingleTarget
      return .augmented first op (← assignedValue rules)
  | none => return .expression first

/-- A type parameter: the bound of a plain one, or none. -/
def typeParam : Rule (Option Expr) :=
  (do let _ ← name; maybe (do symbol ":"; expression rules)) <|>
  (do symbol "*"; let _ ← name; return none) <|>
  (do symbol "**"; let _ ← name; return none)

/-- The bounds of the type parameters in brackets, if there are any. -/
def typeParams : Rule (List Expr) := do
  if ← takeSymbol "[" then
    let (params, _) ← commaList (typeParam rules)
    symbol "]"
    return params.flatMap Option.toList
  return []

/-- A type alias; its first word is an ordinary name elsewhere. -/
def typeAlias : Rule Stmt := do
  keyword "type"
  let id ← name
  let bounds ← typeParams rules
  symbol "="
  return .typeAlias id bounds (← expression rules)

def dottedName : Rule String := do
  return ".".intercalate (← separated "." name)

def importedModule : Rule ImportName := do
  let path ← dottedName
  return ⟨path, ← maybe (do keyword "as"; name)⟩

def importedName : Rule ImportName := do
  let path ← name
  return ⟨path, ← maybe (do keyword "as"; name)⟩

/-- The dots before the module of an import. -/
def leadingDots : Rule String := do
  let dots ← many ((do symbol "."; return ".") <|> (do symbol "..."; return "..."))
  return String.join dots

def importedNames : Rule (List ImportName) := do
  if ← takeSymbol "*" then return [⟨"*", none⟩]
  if ← takeSymbol "(" then
    let (names, _) ← commaList importedName
    symbol ")"
    return names
  separated "," importedName

def importFrom : Rule Stmt := do
  keyword "from"
  let dots ← leadingDots
  let path ← maybe dottedName
  check (dots ≠ "" || path.isSome)
  keyword "import"
  return .importsFrom (dots ++ path.getD "") (← importedNames)

def deletion : Rule Stmt := do
  keyword "del"
  let (targets, _) ← commaList (primary rules)
  check (areDeletable targets)
  check ((← nextIsSymbol ";") || (← nextIs .newline))
  return .delete targets

def raising : Rule Stmt := do
  keyword "raise"
  match ← maybe (expression rules) with
  | some exception =>
      return .raises (some exception) (← maybe (do keyword "from"; expression rules))
  | none => return .raises none none

def simpleStatement : Rule Stmt := do
  let token ← peek
  match token.kind with
  | .name "pass" | .name "break" | .name "continue" => skipToken; return .idle
  | .name "return" => skipToken; return .returns (← maybe (starExpressions rules))
  | .name "import" => skipToken; return .imports (← separated "," importedModule)
  | .name "from" => importFrom
  | .name "raise" => raising rules
  | .name "del" => deletion rules
  | .name "assert" =>
      skipToken
      let test ← expression rules
      return .asserts test (← maybe (do symbol ","; expression rules))
  | .name "global" | .name "nonlocal" => skipToken; return .declares (← separated "," name)
  | .name "type" => typeAlias rules <|> expressionStatement rules
  | _ => expressionStatement rules

def simpleStatements : Rule (List Stmt) := do
  let statements ← separated ";" (simpleStatement rules)
  discard (takeSymbol ";")
  kind .newline
  return statements

/-- The block of a compound statement after its colon. -/
def block : Rule (List Stmt) := do
  symbol ":"
  if ← nextIs .newline then
    kind .newline
    kind .indent
    let statements ← rules.statements
    check (!statements.isEmpty)
    kind .dedent
    return statements
  simpleStatements rules

def elseBlock : Rule (List Stmt) := do
  if ← takeKeyword "else" then block rules else return []

/-- The `elif` and `else` blocks after a condition; an `elif` nests in the
alternative of the condition before it. -/
def alternatives : (fuel : Nat) → Rule (List Stmt)
  | 0 => failure
  | fuel + 1 => do
      if ← takeKeyword "elif" then
        let test ← namedExpression rules
        let body ← block rules
        return [.branch test body (← alternatives fuel)]
      elseBlock rules

def branching : Rule Stmt := do
  keyword "if"
  let test ← namedExpression rules
  let body ← block rules
  let tokens ← get
  return .branch test body (← alternatives rules tokens.length)

def whileLoop : Rule Stmt := do
  keyword "while"
  let test ← namedExpression rules
  let body ← block rules
  return .whileLoop test body (← elseBlock rules)

def forLoop : Rule Stmt := do
  keyword "for"
  let target ← starTargets rules
  keyword "in"
  let source ← starExpressions rules
  let body ← block rules
  return .forLoop target source body (← elseBlock rules)

/-- A context with the target it is bound to. -/
def withItem : Rule (Expr × Option Expr) := do
  let context ← expression rules
  let target ← maybe do
    keyword "as"
    let target ← starTarget rules
    check ((← nextIsSymbol ",") || (← nextIsSymbol ")") || (← nextIsSymbol ":"))
    return target
  return (context, target)

/-- Contexts in parentheses. -/
def groupedItems : Rule (List (Expr × Option Expr)) := do
  symbol "("
  let (items, _) ← commaList (withItem rules)
  symbol ")"
  check (← nextIsSymbol ":")
  return items

def withBlock : Rule Stmt := do
  keyword "with"
  let items ← groupedItems rules <|> separated "," (withItem rules)
  return .withBlock items (← block rules)

/-- An `except` clause; with a star it handles groups and names a type. -/
def handler (isStarred : Bool) : Rule Handler := do
  keyword "except"
  if isStarred then symbol "*"
  let type ← if ← nextIsSymbol ":" then pure none else some <$> expression rules
  check (!isStarred || type.isSome)
  let id ← if type.isSome then maybe (do keyword "as"; name) else pure none
  return .mk type id (← block rules)

/-- The `except` clauses of a statement, all with a star or all without. -/
def handlers : Rule (List Handler) :=
  many1 (handler rules true) <|> many (handler rules false)

def tryBlock : Rule Stmt := do
  keyword "try"
  let body ← block rules
  let handlers ← handlers rules
  let orElse ← if handlers.isEmpty then pure [] else elseBlock rules
  let final ← if ← takeKeyword "finally" then some <$> block rules else pure none
  check (!handlers.isEmpty || final.isSome)
  return .tryBlock body handlers orElse (final.getD [])

def matchSubject : Rule Expr := do
  let first ← starNamed rules
  if ← takeSymbol "," then return .tuple (first :: (← moreElements rules))
  check (!first.isStarred)
  return first

def caseClause : Rule Case := do
  keyword "case"
  let pattern ← casePattern rules
  let guard ← if ← takeKeyword "if" then some <$> namedExpression rules else pure none
  return .mk pattern guard (← block rules)

/-- A `match` statement; its first word is an ordinary name elsewhere. -/
def matchBlock : Rule Stmt := do
  keyword "match"
  let subject ← matchSubject rules
  symbol ":"
  kind .newline
  kind .indent
  let cases ← many1 (caseClause rules)
  kind .dedent
  return .matchBlock subject cases

/-- The place where the node of an expression starts.  Parentheses around a whole
expression are no part of its node. -/
def nodeStart : (fuel : Nat) → Rule NodeStart
  | 0 => failure
  | fuel + 1 => do
      let start ← here
      let tokens ← get
      let whole ← namedExpression rules
      let after ← get
      let inner : Option NodeStart := do
        let (place, rest) ← (do
          symbol "("
          let place ← nodeStart fuel
          symbol ")"
          return place : Rule NodeStart) tokens
        if rest.length = after.length then some place else none
      match whole with
      | .yields _ | .yieldsFrom _ => return start
      | _ => return inner.getD start

def decorator : Rule Decorator := do
  symbol "@"
  let tokens ← get
  let expr ← namedExpression rules
  kind .newline
  match nodeStart rules tokens.length tokens with
  | some (start, _) => return ⟨start, expr⟩
  | none => failure

def function (start : NodeStart) (decorators : List Decorator) : Rule Stmt := do
  keyword "def"
  let id ← name
  discard (typeParams rules)
  symbol "("
  let params ← params rules true
  symbol ")"
  let result ← if ← takeSymbol "->" then some <$> expression rules else pure none
  return .function start id params decorators result (← block rules)

def classDefinition (decorators : List Decorator) : Rule Stmt := do
  keyword "class"
  let id ← name
  discard (typeParams rules)
  let (bases, keywords) ← if ← takeSymbol "(" then argumentList rules else pure ([], [])
  return .classDef (.mk id bases keywords decorators (← block rules))

def definition : Rule Stmt := do
  let decorators ← many (decorator rules)
  let start ← here
  if ← nextIsKeyword "class" then return ← classDefinition rules decorators
  discard (takeKeyword "async")
  function rules start decorators

def asyncStatement : Rule Stmt :=
  definition rules <|> (do
    keyword "async"
    forLoop rules <|> withBlock rules)

def compoundStatement : Rule Stmt := do
  let token ← peek
  match token.kind with
  | .name "if" => branching rules
  | .name "while" => whileLoop rules
  | .name "for" => forLoop rules
  | .name "with" => withBlock rules
  | .name "try" => tryBlock rules
  | .name "def" | .name "class" | .symbol "@" => definition rules
  | .name "async" => asyncStatement rules
  | .name "match" => matchBlock rules
  | _ => failure

/-- One compound statement or the simple statements of a line. -/
def statement : Rule (List Stmt) :=
  (do return [← compoundStatement rules]) <|> simpleStatements rules

def statements : Rule (List Stmt) := do
  return (← many (statement rules)).flatten

end RouteScribe.Source.Rule
