import RouteScribe.Source.Grammar.Expression

/-!
# The grammar of patterns

Patterns compare a value with literals and named values, take it apart, and give
names to its parts.
-/

namespace RouteScribe.Source.Rule

variable (rules : Rules)

/-- A name that a pattern captures; the low line captures nothing. -/
def captureName : Rule String := do
  let id ← name
  check (id ≠ "_")
  check (!(← nextIsSymbol ".") && !(← nextIsSymbol "(") && !(← nextIsSymbol "="))
  return id

def numberToken : Rule Literal := fun tokens =>
  match tokens with
  | token :: rest =>
      match token.kind with
      | .number value => some (value, rest)
      | _ => none
  | [] => none

/-- A number with an optional sign, to which an imaginary part may be added or
from which one may be taken.  The first of two numbers is real, and the second one
is imaginary. -/
def numberPattern : Rule Expr := do
  let isNegative ← takeSymbol "-"
  let number ← numberToken
  let signed : Expr := if isNegative then .unary .minus (.literal number) else .literal number
  match ← maybe (operator [.add, .sub]) with
  | some op =>
      let imaginary ← numberToken
      check (!number.isImaginary && imaginary.isImaginary)
      return .binary signed op (.literal imaginary)
  | none => return signed

/-- A literal that a value can be compared with. -/
def literalPattern : Rule Expr := do
  let token ← peek
  match token.kind with
  | .number _ | .symbol "-" => numberPattern
  | .string _ => strings rules
  | .name text =>
      match keywordLiteral? text with
      | some literal => skipToken; return .literal literal
      | none => failure
  | _ => failure

/-- A name with the attributes after it. -/
def dottedValue : Rule Expr := do
  extend (fun value => do symbol "."; return .attribute value (← name)) (.name (← name))

/-- A starred part of a sequence pattern. -/
def starPattern : Rule Pattern := do
  symbol "*"
  let id ← name
  return .star (if id = "_" then none else some id)

def sequencePart : Rule Pattern :=
  starPattern <|> rules.pattern

/-- The parts of a sequence pattern after the first one and its comma. -/
def moreParts : Rule (List Pattern) := do
  match ← maybe (commaList (sequencePart rules)) with
  | some (patterns, _) => return patterns
  | none => return []

def attributeValue : Rule Expr := do
  match ← dottedValue with
  | .name _ => failure
  | value => return value

def mappingEntry : Rule (Expr × Pattern) := do
  let key ← literalPattern rules <|> attributeValue
  symbol ":"
  return (key, ← rules.pattern)

def mappingRest : Rule String := do
  symbol "**"
  captureName

def mappingPattern : Rule Pattern := do
  symbol "\x7b"
  let entries ← (separated "," (mappingEntry rules)) <|> pure []
  let rest ←
    if entries.isEmpty then maybe mappingRest
    else maybe (do symbol ","; mappingRest)
  discard (takeSymbol ",")
  symbol "\x7d"
  return .mapping (entries.map (·.1)) (entries.map (·.2)) rest

def namedPart : Rule (String × Pattern) := do
  let id ← name
  symbol "="
  return (id, ← rules.pattern)

/-- The parts of an instance pattern, positional ones before named ones. -/
def instanceParts : Rule (List Pattern × List (String × Pattern)) := do
  match ← maybe (separated "," (namedPart rules)) with
  | some named => return ([], named)
  | none =>
      let positional ← (separated "," (do
        check (!(← startsKeyword))
        rules.pattern)) <|> pure []
      let named ←
        if positional.isEmpty then pure []
        else (do symbol ","; separated "," (namedPart rules)) <|> pure []
      return (positional, named)

def instancePattern (type : Expr) : Rule Pattern := do
  symbol "("
  if ← takeSymbol ")" then return .instanceOf type [] [] []
  let (positional, named) ← instanceParts rules
  check (!(positional.isEmpty && named.isEmpty))
  discard (takeSymbol ",")
  symbol ")"
  return .instanceOf type positional (named.map (·.1)) (named.map (·.2))

def namePattern : Rule Pattern := do
  let value ← dottedValue
  if ← nextIsSymbol "(" then return ← instancePattern rules value
  check (!(← nextIsSymbol "="))
  match value with
  | .name id => return .capture none (if id = "_" then none else some id)
  | other => return .value other

/-- A pattern in parentheses: a group or a sequence. -/
def groupPattern : Rule Pattern := do
  symbol "("
  if ← takeSymbol ")" then return .sequence []
  let first ← sequencePart rules
  if ← takeSymbol "," then
    let others ← moreParts rules
    symbol ")"
    return .sequence (first :: others)
  symbol ")"
  match first with
  | .star _ => failure
  | pattern => return pattern

def listPattern : Rule Pattern := do
  symbol "["
  if ← takeSymbol "]" then return .sequence []
  let first ← sequencePart rules
  let others ← if ← takeSymbol "," then moreParts rules else pure []
  symbol "]"
  return .sequence (first :: others)

def closedPattern : Rule Pattern := do
  let token ← peek
  match token.kind with
  | .symbol "(" => groupPattern rules
  | .symbol "[" => listPattern rules
  | .symbol "\x7b" => mappingPattern rules
  | _ => (do return Pattern.value (← literalPattern rules)) <|> namePattern rules

/-- A pattern with alternatives and an optional name. -/
def pattern : Rule Pattern := do
  let choices ← separated "|" (closedPattern rules)
  let chosen : Pattern :=
    match choices with
    | [single] => single
    | several => .choice several
  if ← takeKeyword "as" then return .capture (some chosen) (some (← captureName))
  return chosen

/-- The pattern of a `case` clause, which may be a sequence without brackets. -/
def casePattern : Rule Pattern := do
  let first ← starPattern <|> pattern rules
  if ← takeSymbol "," then return .sequence (first :: (← moreParts rules))
  match first with
  | .star _ => failure
  | single => return single

end RouteScribe.Source.Rule
