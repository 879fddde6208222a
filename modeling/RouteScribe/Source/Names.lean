import RouteScribe.Source.Syntax

/-!
# The names in an expression

Collects every name that stands in an expression, wherever it stands and whether
it is read or assigned to.
-/

namespace RouteScribe.Source

mutual

def Expr.names : Expr → List String
  | .literal _ => []
  | .name id => [id]
  | .attribute value _ | .unary _ value | .starred value | .await value | .yieldsFrom value =>
      value.names
  | .named target value => target :: value.names
  | .subscript value index => value.names ++ index.names
  | .call _ func args keywords => func.names ++ namesInAll args ++ namesInKeywords keywords
  | .lambda params body => params.names ++ body.names
  | .boolean _ values => namesInAll values
  | .binary left _ right => left.names ++ right.names
  | .conditional test body orElse => test.names ++ body.names ++ orElse.names
  | .compare left links => left.names ++ namesInLinks links
  | .tuple elements | .list elements | .set elements => namesInAll elements
  | .dict entries => namesInEntries entries
  | .comprehension _ element clauses => element.names ++ namesInClauses clauses
  | .dictComprehension key value clauses => key.names ++ value.names ++ namesInClauses clauses
  | .yields value => namesInOption value
  | .slice lower upper step => namesInOption lower ++ namesInOption upper ++ namesInOption step
  | .formatted parts => namesInParts parts

def namesInAll : List Expr → List String
  | [] => []
  | expr :: exprs => expr.names ++ namesInAll exprs

def namesInOption : Option Expr → List String
  | none => []
  | some expr => expr.names

def namesInKeywords : List Keyword → List String
  | [] => []
  | .mk _ value :: keywords => value.names ++ namesInKeywords keywords

def namesInLinks : List CompareLink → List String
  | [] => []
  | .mk _ right :: links => right.names ++ namesInLinks links

def namesInEntries : List DictEntry → List String
  | [] => []
  | .pair key value :: entries => key.names ++ value.names ++ namesInEntries entries
  | .unpack value :: entries => value.names ++ namesInEntries entries

def namesInClauses : List Clause → List String
  | [] => []
  | .mk _ target source conditions :: clauses =>
      target.names ++ source.names ++ namesInAll conditions ++ namesInClauses clauses

def namesInParts : List TextPart → List String
  | [] => []
  | .text _ :: parts => namesInParts parts
  | .field value _ format :: parts => value.names ++ namesInFormat format ++ namesInParts parts

def namesInFormat : Option (List TextPart) → List String
  | none => []
  | some parts => namesInParts parts

/-- The names in the hint and the default of a parameter; its own name is not
one of them. -/
def Param.names : Param → List String
  | .mk _ hint default => namesInOption hint ++ namesInOption default

def namesInParamList : List Param → List String
  | [] => []
  | param :: params => param.names ++ namesInParamList params

def namesInParam? : Option Param → List String
  | none => []
  | some param => param.names

def Params.names : Params → List String
  | .mk positionalOnly positional rest keywordOnly restKeywords =>
      namesInParamList positionalOnly ++ namesInParamList positional ++ namesInParam? rest ++
        namesInParamList keywordOnly ++ namesInParam? restKeywords

end

end RouteScribe.Source
