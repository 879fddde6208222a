import RouteScribe.Source.Syntax
import RouteScribe.Source.Token.Basic
import RouteScribe.Text.NormalForm

/-!
# Reading syntax from tokens

A rule of the grammar takes tokens off the front of a list and yields a node, or
fails and leaves the list to the next alternative.  Rules that contain one
another are tied together by `Rules`, a record of the recursive entry points: a
rule is an ordinary function of that record, and each use of an entry point
spends one unit of fuel.
-/

namespace RouteScribe.Source

/-- A rule of the grammar. -/
abbrev Rule (α : Type) := StateT (List Token) Option α

namespace Rule

variable {α β : Type}

def peek : Rule Token := fun tokens =>
  match tokens with
  | [] => none
  | token :: _ => some (token, tokens)

/-- The place where the next token starts. -/
def here : Rule NodeStart := do
  let token ← peek
  return ⟨token.start.line, token.byte⟩

def kind (wanted : TokenKind) : Rule Unit := fun tokens =>
  match tokens with
  | token :: rest => if token.kind = wanted then some ((), rest) else none
  | [] => none

def symbol (text : String) : Rule Unit :=
  kind (.symbol text)

def keyword (text : String) : Rule Unit :=
  kind (.name text)

/-- Takes a name that is no keyword.  Spellings with one normal form are one
name. -/
def name : Rule String := fun tokens =>
  match tokens with
  | token :: rest =>
      match token.kind with
      | .name text => if keywords.contains text then none else some (Text.normalName text, rest)
      | _ => none
  | [] => none

def nextIs (wanted : TokenKind) : Rule Bool := fun tokens =>
  match tokens with
  | token :: _ => some (token.kind = wanted, tokens)
  | [] => some (false, tokens)

def nextIsSymbol (text : String) : Rule Bool :=
  nextIs (.symbol text)

def nextIsKeyword (text : String) : Rule Bool :=
  nextIs (.name text)

/-- Takes a symbol if it is there and says whether it was. -/
def takeSymbol (text : String) : Rule Bool :=
  (do symbol text; return true) <|> pure false

/-- Takes a keyword if it is there and says whether it was. -/
def takeKeyword (text : String) : Rule Bool :=
  (do keyword text; return true) <|> pure false

def check (condition : Bool) : Rule Unit :=
  if condition then pure () else failure

def maybe (rule : Rule α) : Rule (Option α) :=
  (do return some (← rule)) <|> pure none

/-- As many nodes as there are, at most as many as the fuel says. -/
def manyUpTo (rule : Rule α) : (fuel : Nat) → Rule (List α)
  | 0 => pure []
  | fuel + 1 =>
      (do
        let node ← rule
        let nodes ← manyUpTo rule fuel
        return node :: nodes) <|>
      pure []

/-- As many nodes as there are.  Each takes a token, so the tokens left bound
their number. -/
def many (rule : Rule α) : Rule (List α) := do
  let tokens ← get
  manyUpTo rule tokens.length

def many1 (rule : Rule α) : Rule (List α) := do
  let node ← rule
  let nodes ← many rule
  return node :: nodes

/-- One or more nodes with a symbol between them. -/
def separated (separator : String) (rule : Rule α) : Rule (List α) := do
  let node ← rule
  let nodes ← many (do symbol separator; rule)
  return node :: nodes

/-- Nodes separated by commas, and whether a comma ends them. -/
def commaList (rule : Rule α) : Rule (List α × Bool) := do
  let nodes ← separated "," rule
  let trailing ← takeSymbol ","
  return (nodes, trailing)

/-- Extends a node as long as the extension succeeds. -/
def extendUpTo (extend : α → Rule α) : (fuel : Nat) → α → Rule α
  | 0, node => pure node
  | fuel + 1, node =>
      (do
        let longer ← extend node
        extendUpTo extend fuel longer) <|>
      pure node

/-- Extends a node as long as the extension succeeds, which takes tokens. -/
def extend (step : α → Rule α) (node : α) : Rule α := do
  let tokens ← get
  extendUpTo step tokens.length node

def firstOf : List (Rule α) → Rule α
  | [] => failure
  | rule :: rules => rule <|> firstOf rules

end Rule

/-- The recursive entry points of the grammar. -/
structure Rules where
  /-- An expression without an assignment to a name. -/
  expression : Rule Expr
  /-- An expression that may assign to a name. -/
  namedExpression : Rule Expr
  /-- Expressions with unpacking, separated by commas. -/
  starExpressions : Rule Expr
  /-- Operands of a condition. -/
  disjunction : Rule Expr
  inversion : Rule Expr
  /-- Operands of a comparison. -/
  bitwiseOr : Rule Expr
  factor : Rule Expr
  /-- An operand with its trailing parts. -/
  primary : Rule Expr
  pattern : Rule Pattern
  statements : Rule (List Stmt)

/-- The rules after the fuel has run out. -/
def Rules.exhausted : Rules where
  expression := failure
  namedExpression := failure
  starExpressions := failure
  disjunction := failure
  inversion := failure
  bitwiseOr := failure
  factor := failure
  primary := failure
  pattern := failure
  statements := failure

end RouteScribe.Source
