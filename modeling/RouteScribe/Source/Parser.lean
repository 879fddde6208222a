import RouteScribe.Source.Grammar.Statement

/-!
# Reading programs and expressions

The rules of the grammar are tied together up to a depth that the length of the
text bounds: every entry point is used after at least one further character, or
directly inside another one.
-/

namespace RouteScribe.Source

/-- The rules tied together once more. -/
def Rules.tie (inner : Unit → Rules) : Rules where
  expression := fun tokens => Rule.expression (inner ()) tokens
  namedExpression := fun tokens => Rule.namedExpression (inner ()) tokens
  starExpressions := fun tokens => Rule.starExpressions (inner ()) tokens
  disjunction := fun tokens => Rule.disjunction (inner ()) tokens
  inversion := fun tokens => Rule.inversion (inner ()) tokens
  bitwiseOr := fun tokens => Rule.bitwiseOr (inner ()) tokens
  factor := fun tokens => Rule.factor (inner ()) tokens
  primary := fun tokens => Rule.primary (inner ()) tokens
  pattern := fun tokens => Rule.pattern (inner ()) tokens
  statements := fun tokens => Rule.statements (inner ()) tokens

/-- The rules for nodes nested at most as deep as the fuel says. -/
def Rules.upTo : (fuel : Nat) → Rules
  | 0 => .exhausted
  | fuel + 1 => .tie fun _ => upTo fuel

/-- Fuel that suffices for a text. -/
def depthBound (text : List Char) : Nat :=
  2 * text.length + 4

/-- The statements of a program; `none` if the tokens are no program. -/
def moduleOfTokens? (depth : Nat) (tokens : List Token) : Option Module := do
  let (statements, rest) ← (Rules.upTo depth).statements tokens
  if rest.map (·.kind) = [.finish] then return statements else none

/-- The expression of a text; `none` if the text is not one expression or several
separated by commas, without unpacking. -/
def readExpression? (text : String) : Option Expr := do
  let chars := text.toList
  let lexed ← lex? chars
  let rules := Rules.upTo (depthBound chars)
  let ((values, trailing), rest) ← Rule.commaList rules.expression lexed.tokens
  if (rest.dropWhile (·.kind = .newline)).map (·.kind) = [.finish] then
    match values, trailing with
    | [value], false => return value
    | _, _ => return .tuple values
  else none

end RouteScribe.Source
