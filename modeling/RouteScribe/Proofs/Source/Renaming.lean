import Mathlib.Tactic
import RouteScribe.Source.Names

/-!
# Renaming identifiers

A renaming is applied to every name that stands in an expression and to the names of
parameters, functions and classes.  Members, keywords, texts and places stay as they
are, and so do the names in imports, declarations, `except` clauses and patterns,
which are not expressions.
-/

namespace RouteScribe.Source

mutual

/-- An expression with its names replaced. -/
def Expr.rename (rename : String → String) : Expr → Expr
  | .literal value => .literal value
  | .name id => .name (rename id)
  | .attribute value member => .attribute (value.rename rename) member
  | .subscript value index => .subscript (value.rename rename) (index.rename rename)
  | .call start func args keywords =>
      .call start (func.rename rename) (renameAll rename args) (renameKeywords rename keywords)
  | .named target value => .named (rename target) (value.rename rename)
  | .lambda params body => .lambda (params.rename rename) (body.rename rename)
  | .boolean op values => .boolean op (renameAll rename values)
  | .binary left op right => .binary (left.rename rename) op (right.rename rename)
  | .unary op operand => .unary op (operand.rename rename)
  | .conditional test body orElse =>
      .conditional (test.rename rename) (body.rename rename) (orElse.rename rename)
  | .compare left links => .compare (left.rename rename) (renameLinks rename links)
  | .tuple elements => .tuple (renameAll rename elements)
  | .list elements => .list (renameAll rename elements)
  | .set elements => .set (renameAll rename elements)
  | .dict entries => .dict (renameEntries rename entries)
  | .comprehension kind element clauses =>
      .comprehension kind (element.rename rename) (renameClauses rename clauses)
  | .dictComprehension key value clauses =>
      .dictComprehension (key.rename rename) (value.rename rename) (renameClauses rename clauses)
  | .starred value => .starred (value.rename rename)
  | .await value => .await (value.rename rename)
  | .yields value => .yields (renameOption rename value)
  | .yieldsFrom value => .yieldsFrom (value.rename rename)
  | .slice lower upper step =>
      .slice (renameOption rename lower) (renameOption rename upper) (renameOption rename step)
  | .formatted parts => .formatted (renameParts rename parts)

def renameAll (rename : String → String) : List Expr → List Expr
  | [] => []
  | expr :: exprs => expr.rename rename :: renameAll rename exprs

def renameOption (rename : String → String) : Option Expr → Option Expr
  | none => none
  | some expr => some (expr.rename rename)

def renameKeywords (rename : String → String) : List Keyword → List Keyword
  | [] => []
  | .mk name value :: keywords => .mk name (value.rename rename) :: renameKeywords rename keywords

def renameLinks (rename : String → String) : List CompareLink → List CompareLink
  | [] => []
  | .mk op right :: links => .mk op (right.rename rename) :: renameLinks rename links

def renameEntries (rename : String → String) : List DictEntry → List DictEntry
  | [] => []
  | .pair key value :: entries =>
      .pair (key.rename rename) (value.rename rename) :: renameEntries rename entries
  | .unpack value :: entries => .unpack (value.rename rename) :: renameEntries rename entries

def renameClauses (rename : String → String) : List Clause → List Clause
  | [] => []
  | .mk isAsync target source conditions :: clauses =>
      .mk isAsync (target.rename rename) (source.rename rename) (renameAll rename conditions) ::
        renameClauses rename clauses

def renameParts (rename : String → String) : List TextPart → List TextPart
  | [] => []
  | .text content :: parts => .text content :: renameParts rename parts
  | .field value conversion format :: parts =>
      .field (value.rename rename) conversion (renameFormat rename format) ::
        renameParts rename parts

def renameFormat (rename : String → String) : Option (List TextPart) → Option (List TextPart)
  | none => none
  | some parts => some (renameParts rename parts)

def Param.rename (rename : String → String) : Param → Param
  | .mk name hint default =>
      .mk (rename name) (renameOption rename hint) (renameOption rename default)

def renameParamList (rename : String → String) : List Param → List Param
  | [] => []
  | param :: params => param.rename rename :: renameParamList rename params

def renameParam? (rename : String → String) : Option Param → Option Param
  | none => none
  | some param => some (param.rename rename)

def Params.rename (rename : String → String) : Params → Params
  | .mk positionalOnly positional rest keywordOnly restKeywords =>
      .mk (renameParamList rename positionalOnly) (renameParamList rename positional)
        (renameParam? rename rest) (renameParamList rename keywordOnly)
        (renameParam? rename restKeywords)

end

mutual

/-- A pattern with the names in its expressions replaced. -/
def Pattern.rename (rename : String → String) : Pattern → Pattern
  | .value expr => .value (expr.rename rename)
  | .sequence patterns => .sequence (renamePatterns rename patterns)
  | .star name => .star name
  | .mapping keys patterns rest =>
      .mapping (renameAll rename keys) (renamePatterns rename patterns) rest
  | .instanceOf type patterns names named =>
      .instanceOf (type.rename rename) (renamePatterns rename patterns) names
        (renamePatterns rename named)
  | .capture pattern name => .capture (renamePattern? rename pattern) name
  | .choice patterns => .choice (renamePatterns rename patterns)

def renamePatterns (rename : String → String) : List Pattern → List Pattern
  | [] => []
  | pattern :: patterns => pattern.rename rename :: renamePatterns rename patterns

def renamePattern? (rename : String → String) : Option Pattern → Option Pattern
  | none => none
  | some pattern => some (pattern.rename rename)

end

def Decorator.rename (rename : String → String) (decorator : Decorator) : Decorator :=
  { decorator with expr := decorator.expr.rename rename }

/-- The contexts of a block and what they are bound to, with their names replaced. -/
def renameContexts (rename : String → String) (items : List (Expr × Option Expr)) :
    List (Expr × Option Expr) :=
  items.map fun (context, target) => (context.rename rename, renameOption rename target)

mutual

/-- A statement with its names replaced. -/
def Stmt.rename (rename : String → String) : Stmt → Stmt
  | .expression value => .expression (value.rename rename)
  | .assign start targets value => .assign start (renameAll rename targets) (value.rename rename)
  | .annotated start target hint value =>
      .annotated start (target.rename rename) (hint.rename rename) (renameOption rename value)
  | .augmented target op value => .augmented (target.rename rename) op (value.rename rename)
  | .typeAlias name bounds value =>
      .typeAlias (rename name) (renameAll rename bounds) (value.rename rename)
  | .delete targets => .delete (renameAll rename targets)
  | .returns value => .returns (renameOption rename value)
  | .raises exception cause =>
      .raises (renameOption rename exception) (renameOption rename cause)
  | .asserts test message => .asserts (test.rename rename) (renameOption rename message)
  | .imports names => .imports names
  | .importsFrom module names => .importsFrom module names
  | .declares names => .declares names
  | .idle => .idle
  | .branch test body orElse =>
      .branch (test.rename rename) (renameStmts rename body) (renameStmts rename orElse)
  | .whileLoop test body orElse =>
      .whileLoop (test.rename rename) (renameStmts rename body) (renameStmts rename orElse)
  | .forLoop target source body orElse =>
      .forLoop (target.rename rename) (source.rename rename) (renameStmts rename body)
        (renameStmts rename orElse)
  | .withBlock items body => .withBlock (renameContexts rename items) (renameStmts rename body)
  | .tryBlock body handlers orElse final =>
      .tryBlock (renameStmts rename body) (renameHandlers rename handlers)
        (renameStmts rename orElse) (renameStmts rename final)
  | .matchBlock subject cases => .matchBlock (subject.rename rename) (renameCases rename cases)
  | .function start name params decorators result body =>
      .function start (rename name) (params.rename rename)
        (decorators.map (Decorator.rename rename)) (renameOption rename result)
        (renameStmts rename body)
  | .classDef (.mk name bases keywords decorators body) =>
      .classDef (.mk (rename name) (renameAll rename bases) (renameKeywords rename keywords)
        (decorators.map (Decorator.rename rename)) (renameStmts rename body))

def renameStmts (rename : String → String) : List Stmt → List Stmt
  | [] => []
  | statement :: statements => statement.rename rename :: renameStmts rename statements

def renameHandlers (rename : String → String) : List Handler → List Handler
  | [] => []
  | .mk type name body :: handlers =>
      .mk (renameOption rename type) name (renameStmts rename body) ::
        renameHandlers rename handlers

def renameCases (rename : String → String) : List Case → List Case
  | [] => []
  | .mk pattern guard body :: cases =>
      .mk (pattern.rename rename) (renameOption rename guard) (renameStmts rename body) ::
        renameCases rename cases

end

/-- A program with its names replaced. -/
def Module.rename (rename : String → String) (module : Module) : Module :=
  renameStmts rename module

variable (rename : String → String)

theorem renameAll_eq_map (exprs : List Expr) :
    renameAll rename exprs = exprs.map (Expr.rename rename) := by
  induction exprs with
  | nil => rfl
  | cons expr exprs ih => rw [renameAll, ih, List.map_cons]

theorem renameParamList_eq_map (params : List Param) :
    renameParamList rename params = params.map (Param.rename rename) := by
  induction params with
  | nil => rfl
  | cons param params ih => rw [renameParamList, ih, List.map_cons]

-- The names of an expression are replaced one by one, wherever they stand in it.
mutual

/-- A renamed expression has the renamed names. -/
theorem Expr.names_rename (expr : Expr) :
    (expr.rename rename).names = expr.names.map rename := by
  match expr with
  | .literal _ | .name _ => simp only [Expr.rename, Expr.names, List.map_nil, List.map_cons]
  | .attribute value _ | .unary _ value | .starred value | .await value | .yieldsFrom value =>
      simp only [Expr.rename, Expr.names]
      exact value.names_rename
  | .named target value =>
      simp only [Expr.rename, Expr.names, List.map_cons, value.names_rename]
  | .subscript value index =>
      simp only [Expr.rename, Expr.names, List.map_append, value.names_rename,
        index.names_rename]
  | .call _ func args keywords =>
      simp only [Expr.rename, Expr.names, List.map_append, func.names_rename,
        namesInAll_rename args, namesInKeywords_rename keywords]
  | .lambda params body =>
      simp only [Expr.rename, Expr.names, List.map_append, params.names_rename,
        body.names_rename]
  | .boolean _ elements | .tuple elements | .list elements | .set elements =>
      simp only [Expr.rename, Expr.names]
      exact namesInAll_rename elements
  | .binary left _ right =>
      simp only [Expr.rename, Expr.names, List.map_append, left.names_rename,
        right.names_rename]
  | .conditional test body orElse =>
      simp only [Expr.rename, Expr.names, List.map_append, test.names_rename,
        body.names_rename, orElse.names_rename]
  | .compare left links =>
      simp only [Expr.rename, Expr.names, List.map_append, left.names_rename,
        namesInLinks_rename links]
  | .dict entries =>
      simp only [Expr.rename, Expr.names]
      exact namesInEntries_rename entries
  | .comprehension _ element clauses =>
      simp only [Expr.rename, Expr.names, List.map_append, element.names_rename,
        namesInClauses_rename clauses]
  | .dictComprehension key value clauses =>
      simp only [Expr.rename, Expr.names, List.map_append, key.names_rename,
        value.names_rename, namesInClauses_rename clauses]
  | .yields value =>
      simp only [Expr.rename, Expr.names]
      exact namesInOption_rename value
  | .slice lower upper step =>
      simp only [Expr.rename, Expr.names, List.map_append, namesInOption_rename lower,
        namesInOption_rename upper, namesInOption_rename step]
  | .formatted parts =>
      simp only [Expr.rename, Expr.names]
      exact namesInParts_rename parts

theorem namesInAll_rename (exprs : List Expr) :
    namesInAll (renameAll rename exprs) = (namesInAll exprs).map rename := by
  match exprs with
  | [] => rfl
  | expr :: exprs =>
      simp only [renameAll, namesInAll, List.map_append, expr.names_rename,
        namesInAll_rename exprs]

theorem namesInOption_rename (expr : Option Expr) :
    namesInOption (renameOption rename expr) = (namesInOption expr).map rename := by
  match expr with
  | none => rfl
  | some expr =>
      simp only [renameOption, namesInOption]
      exact expr.names_rename

theorem namesInKeywords_rename (keywords : List Keyword) :
    namesInKeywords (renameKeywords rename keywords) = (namesInKeywords keywords).map rename := by
  match keywords with
  | [] => rfl
  | .mk _ value :: keywords =>
      simp only [renameKeywords, namesInKeywords, List.map_append, value.names_rename,
        namesInKeywords_rename keywords]

theorem namesInLinks_rename (links : List CompareLink) :
    namesInLinks (renameLinks rename links) = (namesInLinks links).map rename := by
  match links with
  | [] => rfl
  | .mk _ right :: links =>
      simp only [renameLinks, namesInLinks, List.map_append, right.names_rename,
        namesInLinks_rename links]

theorem namesInEntries_rename (entries : List DictEntry) :
    namesInEntries (renameEntries rename entries) = (namesInEntries entries).map rename := by
  match entries with
  | [] => rfl
  | .pair key value :: entries =>
      simp only [renameEntries, namesInEntries, List.map_append, key.names_rename,
        value.names_rename, namesInEntries_rename entries]
  | .unpack value :: entries =>
      simp only [renameEntries, namesInEntries, List.map_append, value.names_rename,
        namesInEntries_rename entries]

theorem namesInClauses_rename (clauses : List Clause) :
    namesInClauses (renameClauses rename clauses) = (namesInClauses clauses).map rename := by
  match clauses with
  | [] => rfl
  | .mk _ target source conditions :: clauses =>
      simp only [renameClauses, namesInClauses, List.map_append, target.names_rename,
        source.names_rename, namesInAll_rename conditions,
        namesInClauses_rename clauses]

theorem namesInParts_rename (parts : List TextPart) :
    namesInParts (renameParts rename parts) = (namesInParts parts).map rename := by
  match parts with
  | [] => rfl
  | .text _ :: parts =>
      simp only [renameParts, namesInParts]
      exact namesInParts_rename parts
  | .field value _ format :: parts =>
      simp only [renameParts, namesInParts, List.map_append, value.names_rename,
        namesInFormat_rename format, namesInParts_rename parts]

theorem namesInFormat_rename (format : Option (List TextPart)) :
    namesInFormat (renameFormat rename format) = (namesInFormat format).map rename := by
  match format with
  | none => rfl
  | some parts =>
      simp only [renameFormat, namesInFormat]
      exact namesInParts_rename parts

theorem Param.names_rename (param : Param) :
    (param.rename rename).names = param.names.map rename := by
  match param with
  | .mk _ hint default =>
      simp only [Param.rename, Param.names, List.map_append, namesInOption_rename hint,
        namesInOption_rename default]

theorem namesInParamList_rename (params : List Param) :
    namesInParamList (renameParamList rename params) = (namesInParamList params).map rename := by
  match params with
  | [] => rfl
  | param :: params =>
      simp only [renameParamList, namesInParamList, List.map_append, param.names_rename,
        namesInParamList_rename params]

theorem namesInParam?_rename (param : Option Param) :
    namesInParam? (renameParam? rename param) = (namesInParam? param).map rename := by
  match param with
  | none => rfl
  | some param =>
      simp only [renameParam?, namesInParam?]
      exact param.names_rename

theorem Params.names_rename (params : Params) :
    (params.rename rename).names = params.names.map rename := by
  match params with
  | .mk positionalOnly positional rest keywordOnly restKeywords =>
      simp only [Params.rename, Params.names, List.map_append,
        namesInParamList_rename positionalOnly, namesInParamList_rename positional,
        namesInParam?_rename rest, namesInParamList_rename keywordOnly,
        namesInParam?_rename restKeywords]

end

end RouteScribe.Source
