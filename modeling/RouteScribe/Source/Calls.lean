import RouteScribe.Source.Syntax

/-!
# The calls of a program

Collects where the call expressions of a program start, in whatever part of the
program they stand.
-/

namespace RouteScribe.Source

mutual

def Expr.calls : Expr → List NodeStart
  | .literal _ | .name _ => []
  | .attribute value _ | .named _ value | .unary _ value | .starred value | .await value
  | .yieldsFrom value => value.calls
  | .subscript value index => value.calls ++ index.calls
  | .call start func args keywords =>
      start :: func.calls ++ callsInAll args ++ callsInKeywords keywords
  | .lambda params body => params.calls ++ body.calls
  | .boolean _ values => callsInAll values
  | .binary left _ right => left.calls ++ right.calls
  | .conditional test body orElse => test.calls ++ body.calls ++ orElse.calls
  | .compare left links => left.calls ++ callsInLinks links
  | .tuple elements | .list elements | .set elements => callsInAll elements
  | .dict entries => callsInEntries entries
  | .comprehension _ element clauses => element.calls ++ callsInClauses clauses
  | .dictComprehension key value clauses => key.calls ++ value.calls ++ callsInClauses clauses
  | .yields value => callsInOption value
  | .slice lower upper step => callsInOption lower ++ callsInOption upper ++ callsInOption step
  | .formatted parts => callsInParts parts

def callsInAll : List Expr → List NodeStart
  | [] => []
  | expr :: exprs => expr.calls ++ callsInAll exprs

def callsInOption : Option Expr → List NodeStart
  | none => []
  | some expr => expr.calls

def callsInKeywords : List Keyword → List NodeStart
  | [] => []
  | .mk _ value :: keywords => value.calls ++ callsInKeywords keywords

def callsInLinks : List CompareLink → List NodeStart
  | [] => []
  | .mk _ right :: links => right.calls ++ callsInLinks links

def callsInEntries : List DictEntry → List NodeStart
  | [] => []
  | .pair key value :: entries => key.calls ++ value.calls ++ callsInEntries entries
  | .unpack value :: entries => value.calls ++ callsInEntries entries

def callsInClauses : List Clause → List NodeStart
  | [] => []
  | .mk _ target source conditions :: clauses =>
      target.calls ++ source.calls ++ callsInAll conditions ++ callsInClauses clauses

def callsInParts : List TextPart → List NodeStart
  | [] => []
  | .text _ :: parts => callsInParts parts
  | .field value _ format :: parts => value.calls ++ callsInFormat format ++ callsInParts parts

def callsInFormat : Option (List TextPart) → List NodeStart
  | none => []
  | some parts => callsInParts parts

def Param.calls : Param → List NodeStart
  | .mk _ hint default => callsInOption hint ++ callsInOption default

def callsInParamList : List Param → List NodeStart
  | [] => []
  | param :: params => param.calls ++ callsInParamList params

def callsInParam? : Option Param → List NodeStart
  | none => []
  | some param => param.calls

def Params.calls : Params → List NodeStart
  | .mk positionalOnly positional rest keywordOnly restKeywords =>
      callsInParamList positionalOnly ++ callsInParamList positional ++ callsInParam? rest ++
        callsInParamList keywordOnly ++ callsInParam? restKeywords

end

mutual

def Pattern.calls : Pattern → List NodeStart
  | .value expr => expr.calls
  | .sequence patterns | .choice patterns => callsInPatterns patterns
  | .star _ => []
  | .mapping keys patterns _ => callsInAll keys ++ callsInPatterns patterns
  | .instanceOf type patterns _ named =>
      type.calls ++ callsInPatterns patterns ++ callsInPatterns named
  | .capture pattern _ => callsInPattern? pattern

def callsInPatterns : List Pattern → List NodeStart
  | [] => []
  | pattern :: patterns => pattern.calls ++ callsInPatterns patterns

def callsInPattern? : Option Pattern → List NodeStart
  | none => []
  | some pattern => pattern.calls

end

def callsInDecorators (decorators : List Decorator) : List NodeStart :=
  decorators.flatMap (·.expr.calls)

mutual

def Stmt.calls : Stmt → List NodeStart
  | .expression value => value.calls
  | .assign _ targets value => callsInAll targets ++ value.calls
  | .annotated _ target hint value => target.calls ++ hint.calls ++ callsInOption value
  | .augmented target _ value => target.calls ++ value.calls
  | .typeAlias _ bounds value => callsInAll bounds ++ value.calls
  | .delete targets => callsInAll targets
  | .returns value => callsInOption value
  | .raises exception cause => callsInOption exception ++ callsInOption cause
  | .asserts test message => test.calls ++ callsInOption message
  | .imports _ | .importsFrom _ _ | .declares _ | .idle => []
  | .branch test body orElse | .whileLoop test body orElse =>
      test.calls ++ callsInStatements body ++ callsInStatements orElse
  | .forLoop target source body orElse =>
      target.calls ++ source.calls ++ callsInStatements body ++ callsInStatements orElse
  | .withBlock items body =>
      items.flatMap (fun item => item.1.calls ++ callsInOption item.2) ++ callsInStatements body
  | .tryBlock body handlers orElse final =>
      callsInStatements body ++ callsInHandlers handlers ++ callsInStatements orElse ++
        callsInStatements final
  | .matchBlock subject cases => subject.calls ++ callsInCases cases
  | .function _ _ params decorators result body =>
      callsInDecorators decorators ++ params.calls ++ callsInOption result ++ callsInStatements body
  | .classDef (.mk _ bases keywords decorators body) =>
      callsInDecorators decorators ++ callsInAll bases ++ callsInKeywords keywords ++
        callsInStatements body

def callsInStatements : List Stmt → List NodeStart
  | [] => []
  | statement :: statements => statement.calls ++ callsInStatements statements

def callsInHandlers : List Handler → List NodeStart
  | [] => []
  | .mk type _ body :: handlers =>
      callsInOption type ++ callsInStatements body ++ callsInHandlers handlers

def callsInCases : List Case → List NodeStart
  | [] => []
  | .mk pattern guard body :: cases =>
      pattern.calls ++ callsInOption guard ++ callsInStatements body ++ callsInCases cases

end

def NodeStart.le (left right : NodeStart) : Bool :=
  left.line < right.line || (left.line = right.line && left.byte ≤ right.byte)

/-- Where the calls of a program start, in the order of the text. -/
def Module.calls (module : Module) : List NodeStart :=
  (callsInStatements module).mergeSort NodeStart.le

end RouteScribe.Source
