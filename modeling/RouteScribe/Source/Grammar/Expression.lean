import RouteScribe.Source.Grammar.FormattedText
import RouteScribe.Source.Grammar.Params
import RouteScribe.Source.Grammar.Target

/-!
# The grammar of expressions

One rule for each level of binding strength, from displays and literals up to
conditional expressions.  A level with binary operators reads operands of the
next stronger level and groups them to the left.
-/

namespace RouteScribe.Source.Rule

variable (rules : Rules)

def skipToken : Rule Unit := fun tokens =>
  match tokens with
  | [] => none
  | _ :: rest => some ((), rest)

def placedString : Rule PlacedString := fun tokens =>
  match tokens with
  | token :: rest => token.placedString?.map (·, rest)
  | [] => none

def strings : Rule Expr := do
  let pieces ← many1 placedString
  match joinStrings? rules pieces with
  | some expr => return expr
  | none => failure

/-- An element of a display: an expression or an unpacked one. -/
def starNamed : Rule Expr := do
  if ← takeSymbol "*" then return .starred (← rules.bitwiseOr) else rules.namedExpression

/-- An element of an expression list: an expression or an unpacked one. -/
def starExpression : Rule Expr := do
  if ← takeSymbol "*" then return .starred (← rules.bitwiseOr) else rules.expression

def startsClause : Rule Bool := do
  if ← nextIsKeyword "for" then return true
  let tokens ← get
  match tokens with
  | first :: second :: _ =>
      return first.kind = .name "async" && second.kind = .name "for"
  | _ => return false

def clause : Rule Clause := do
  let isAsync ← takeKeyword "async"
  keyword "for"
  let target ← starTargets rules
  keyword "in"
  let source ← rules.disjunction
  let conditions ← many (do keyword "if"; rules.disjunction)
  return .mk isAsync target source conditions

def clauses : Rule (List Clause) :=
  many1 (clause rules)

/-- The value of a generator after `yield`. -/
def yieldExpression : Rule Expr := do
  keyword "yield"
  if ← takeKeyword "from" then return .yieldsFrom (← rules.expression)
  return .yields (← maybe rules.starExpressions)

/-- The elements after the first one and its comma. -/
def moreElements : Rule (List Expr) := do
  match ← maybe (commaList (starNamed rules)) with
  | some (elements, _) => return elements
  | none => return []

/-- A parenthesized expression, a tuple, or a generator. -/
def parenthesized : Rule Expr := do
  symbol "("
  if ← takeSymbol ")" then return .tuple []
  if ← nextIsKeyword "yield" then
    let value ← yieldExpression rules
    symbol ")"
    return value
  let first ← starNamed rules
  if ← startsClause then
    check (!first.isStarred)
    let clauses ← clauses rules
    symbol ")"
    return .comprehension .generator first clauses
  if ← takeSymbol "," then
    let others ← moreElements rules
    symbol ")"
    return .tuple (first :: others)
  check (!first.isStarred)
  symbol ")"
  return first

def listDisplay : Rule Expr := do
  symbol "["
  if ← takeSymbol "]" then return .list []
  let first ← starNamed rules
  if ← startsClause then
    check (!first.isStarred)
    let clauses ← clauses rules
    symbol "]"
    return .comprehension .list first clauses
  let others ← if ← takeSymbol "," then moreElements rules else pure []
  symbol "]"
  return .list (first :: others)

def dictEntry : Rule DictEntry := do
  if ← takeSymbol "**" then return .unpack (← rules.bitwiseOr)
  let key ← rules.expression
  symbol ":"
  return .pair key (← rules.expression)

/-- The entries of a dictionary after the first one, with the closing brace. -/
def moreEntries (first : DictEntry) : Rule Expr := do
  let others ←
    if ← takeSymbol "," then
      match ← maybe (commaList (dictEntry rules)) with
      | some (entries, _) => pure entries
      | none => pure []
    else pure []
  symbol "\x7d"
  return .dict (first :: others)

/-- The elements of a set after the first one, with the closing brace. -/
def setFrom (first : Expr) : Rule Expr := do
  if ← startsClause then
    check (!first.isStarred)
    let clauses ← clauses rules
    symbol "\x7d"
    return .comprehension .set first clauses
  let others ← if ← takeSymbol "," then moreElements rules else pure []
  symbol "\x7d"
  return .set (first :: others)

/-- Whether a name with an assignment sign follows. -/
def startsNamed : Rule Bool := do
  let tokens ← get
  match tokens with
  | first :: second :: _ =>
      match first.kind with
      | .name id => return !keywords.contains id && second.kind = .symbol ":="
      | _ => return false
  | _ => return false

/-- A dictionary, a set, or a comprehension of either. -/
def braceDisplay : Rule Expr := do
  symbol "\x7b"
  if ← takeSymbol "\x7d" then return .dict []
  if ← takeSymbol "**" then
    let value ← rules.bitwiseOr
    return ← moreEntries rules (.unpack value)
  if (← nextIsSymbol "*") || (← startsNamed) then
    let first ← starNamed rules
    return ← setFrom rules first
  let first ← rules.expression
  if ← takeSymbol ":" then
    let value ← rules.expression
    if ← startsClause then
      let clauses ← clauses rules
      symbol "\x7d"
      return .dictComprehension first value clauses
    moreEntries rules (.pair first value)
  else setFrom rules first

def keywordLiteral? : String → Option Literal
  | "None" => some .none
  | "True" => some (.bool true)
  | "False" => some (.bool false)
  | _ => none

/-- A literal, a name or a display. -/
def atom : Rule Expr := do
  let token ← peek
  match token.kind with
  | .name text =>
      match keywordLiteral? text with
      | some literal => skipToken; return .literal literal
      | none => return .name (← name)
  | .number value => skipToken; return .literal value
  | .string _ => strings rules
  | .symbol "(" => parenthesized rules
  | .symbol "[" => listDisplay rules
  | .symbol "\x7b" => braceDisplay rules
  | .symbol "..." => skipToken; return .literal .ellipsis
  | _ => failure

inductive Argument where
  | positional (value : Expr)
  | unpacked (value : Expr)
  | keyword (name : String) (value : Expr)
  | mapping (value : Expr)

/-- Whether a name with an equals sign follows. -/
def startsKeyword : Rule Bool := do
  let tokens ← get
  match tokens with
  | first :: second :: _ =>
      match first.kind with
      | .name id => return !keywords.contains id && second.kind = .symbol "="
      | _ => return false
  | _ => return false

def argument : Rule Argument := do
  if ← takeSymbol "**" then return .mapping (← rules.expression)
  if ← takeSymbol "*" then return .unpacked (← rules.expression)
  if ← startsKeyword then
    let id ← name
    symbol "="
    return .keyword id (← rules.expression)
  return .positional (← rules.namedExpression)

/-- Whether arguments come in a permitted order: no positional argument after a
keyword, and no unpacked argument after an unpacked mapping. -/
def inOrder : (afterKeyword afterMapping : Bool) → List Argument → Bool
  | _, _, [] => true
  | afterKeyword, afterMapping, .positional _ :: rest =>
      !afterKeyword && !afterMapping && inOrder afterKeyword afterMapping rest
  | afterKeyword, afterMapping, .unpacked _ :: rest =>
      !afterMapping && inOrder afterKeyword afterMapping rest
  | _, afterMapping, .keyword _ _ :: rest => inOrder true afterMapping rest
  | afterKeyword, _, .mapping _ :: rest => inOrder afterKeyword true rest

def positionalValues (arguments : List Argument) : List Expr :=
  arguments.filterMap fun
    | .positional value => some value
    | .unpacked value => some (.starred value)
    | _ => none

def keywordValues (arguments : List Argument) : List Keyword :=
  arguments.filterMap fun
    | .keyword name value => some (.mk (some name) value)
    | .mapping value => some (.mk none value)
    | _ => none

/-- Arguments after the first one, with the closing parenthesis. -/
def moreArguments (first : Argument) : Rule (List Expr × List Keyword) := do
  let others ←
    if ← takeSymbol "," then
      match ← maybe (commaList (argument rules)) with
      | some (arguments, _) => pure arguments
      | none => pure []
    else pure []
  symbol ")"
  let all := first :: others
  check (inOrder false false all)
  return (positionalValues all, keywordValues all)

/-- Arguments after the opening parenthesis, with the closing one. -/
def argumentList : Rule (List Expr × List Keyword) := do
  if ← takeSymbol ")" then return ([], [])
  moreArguments rules (← argument rules)

/-- The arguments of a call after the opening parenthesis, with the closing one.
A generator needs no parentheses of its own if it is the only argument. -/
def arguments : Rule (List Expr × List Keyword) := do
  if ← takeSymbol ")" then return ([], [])
  let first ← argument rules
  if ← startsClause then
    match first with
    | .positional value =>
        let clauses ← clauses rules
        symbol ")"
        return ([.comprehension .generator value clauses], [])
    | _ => failure
  moreArguments rules first

def sliceItem : Rule Expr := do
  let lower ← if ← nextIsSymbol ":" then pure none else return ← sliceFrom rules
  sliceTail rules lower
where
  /-- The rest of a slice from its first colon on. -/
  sliceTail (rules : Rules) (lower : Option Expr) : Rule Expr := do
    symbol ":"
    let upper ← maybe rules.expression
    let step ← if ← takeSymbol ":" then maybe rules.expression else pure none
    return .slice lower upper step
  /-- An expression, which may turn out to be the lower end of a slice. -/
  sliceFrom (rules : Rules) : Rule Expr := do
    let isNamed ← startsNamed
    let value ← rules.namedExpression
    if !isNamed && (← nextIsSymbol ":") then sliceTail rules (some value) else return value

def starSlice : Rule Expr := do
  if ← takeSymbol "*" then return .starred (← rules.expression) else sliceItem rules

/-- The subscripts between square brackets. -/
def slices : Rule Expr := do
  let (items, trailing) ← commaList (starSlice rules)
  match items, trailing with
  | [item], false => return if item.isStarred then .tuple [item] else item
  | _, _ => return .tuple items

/-- Adds one trailing part to an operand that starts at the given place. -/
def trailer (start : NodeStart) (operand : Expr) : Rule Expr := do
  if ← takeSymbol "." then return .attribute operand (← name)
  if ← takeSymbol "(" then
    let (args, keywords) ← arguments rules
    return .call start operand args keywords
  symbol "["
  let index ← slices rules
  symbol "]"
  return .subscript operand index

/-- An operand with its trailing parts. -/
def primary : Rule Expr := do
  let start ← here
  extend (trailer rules start) (← atom rules)

def awaited : Rule Expr := do
  if ← takeKeyword "await" then return .await (← primary rules) else primary rules

def power : Rule Expr := do
  let base ← awaited rules
  if ← takeSymbol "**" then return .binary base .pow (← rules.factor) else return base

def factor : Rule Expr := do
  if ← takeSymbol "+" then return .unary .plus (← rules.factor)
  if ← takeSymbol "-" then return .unary .minus (← rules.factor)
  if ← takeSymbol "~" then return .unary .invert (← rules.factor)
  power rules

def operator (ops : List BinaryOp) : Rule BinaryOp :=
  firstOf (ops.map fun op => do symbol op.symbol; return op)

/-- Operands of a level with some binary operators between them. -/
def leftGrouped (ops : List BinaryOp) (operand : Rule Expr) : Rule Expr := do
  extend (fun left => do return .binary left (← operator ops) (← operand)) (← operand)

def term : Rule Expr :=
  leftGrouped [.mult, .div, .floorDiv, .mod, .matMult] (factor rules)

def sum : Rule Expr :=
  leftGrouped [.add, .sub] (term rules)

def shift : Rule Expr :=
  leftGrouped [.lShift, .rShift] (sum rules)

def bitwiseAnd : Rule Expr :=
  leftGrouped [.bitAnd] (shift rules)

def bitwiseXor : Rule Expr :=
  leftGrouped [.bitXor] (bitwiseAnd rules)

def bitwiseOr : Rule Expr :=
  leftGrouped [.bitOr] (bitwiseXor rules)

def compareOp : Rule CompareOp := do
  if ← takeKeyword "not" then
    keyword "in"
    return .notIn
  if ← takeKeyword "is" then
    return if ← takeKeyword "not" then .isNot else .is
  if ← takeKeyword "in" then return .isIn
  firstOf ([CompareOp.eq, .notEq, .le, .lt, .ge, .gt].map fun op => do
    symbol op.symbol
    return op)

def comparison : Rule Expr := do
  let left ← bitwiseOr rules
  let links ← many (do return CompareLink.mk (← compareOp) (← bitwiseOr rules))
  return if links.isEmpty then left else .compare left links

def inversion : Rule Expr := do
  if ← takeKeyword "not" then return .unary .not (← rules.inversion) else comparison rules

/-- Operands of a level with a boolean operator between them. -/
def booleanLevel (op : BoolOp) (operand : Rule Expr) : Rule Expr := do
  let first ← operand
  let others ← many (do keyword op.symbol; operand)
  return if others.isEmpty then first else .boolean op (first :: others)

def conjunction : Rule Expr :=
  booleanLevel .and (inversion rules)

def disjunction : Rule Expr :=
  booleanLevel .or (conjunction rules)

/-- A function without a name. -/
def lambda : Rule Expr := do
  keyword "lambda"
  let params ← params rules false
  symbol ":"
  return .lambda params (← rules.expression)

/-- An expression: a function without a name, or operands with an optional
condition. -/
def expression : Rule Expr := do
  if ← nextIsKeyword "lambda" then return ← lambda rules
  let body ← disjunction rules
  if ← takeKeyword "if" then
    let test ← rules.disjunction
    keyword "else"
    return .conditional test body (← rules.expression)
  return body

/-- An expression that may assign its value to a name. -/
def namedExpression : Rule Expr := do
  if ← startsNamed then
    let id ← name
    symbol ":="
    return .named id (← rules.expression)
  let value ← expression rules
  check (!(← nextIsSymbol ":="))
  return value

/-- An expression list; more than one expression, or a trailing comma, makes a
tuple. -/
def starExpressions : Rule Expr := do
  let (values, trailing) ← commaList (starExpression rules)
  match values, trailing with
  | [value], false => return value
  | _, _ => return .tuple values

end RouteScribe.Source.Rule
