import Mathlib.Tactic
import RouteScribe.Source.Names

/-!
# The names that a program binds

What the analysed language itself says about binding: which names an expression or
a statement binds in the scope where it stands.  Names in the body of a function or
a class belong to another scope and do not count.  The names that a statement
disturbs stand in its targets, whether they are assigned to or only read.
-/

namespace RouteScribe.Source

mutual

/-- The names that an expression binds in its own scope, in the order of
evaluation.  Only assignment expressions bind names, and the body of a function
without a name is a scope of its own. -/
def Expr.binds : Expr → List String
  | .literal _ | .name _ => []
  | .attribute value _ | .unary _ value | .starred value | .await value | .yieldsFrom value =>
      value.binds
  | .named target value => value.binds ++ [target]
  | .subscript value index => value.binds ++ index.binds
  | .call _ func args keywords => func.binds ++ bindsInAll args ++ bindsInKeywords keywords
  | .lambda params _ => params.binds
  | .boolean _ values => bindsInAll values
  | .binary left _ right => left.binds ++ right.binds
  | .conditional test body orElse => test.binds ++ body.binds ++ orElse.binds
  | .compare left links => left.binds ++ bindsInLinks links
  | .tuple elements | .list elements | .set elements => bindsInAll elements
  | .dict entries => bindsInDictKeys entries ++ bindsInDictValues entries
  | .comprehension _ element clauses => element.binds ++ bindsInClauses clauses
  | .dictComprehension key value clauses => key.binds ++ value.binds ++ bindsInClauses clauses
  | .yields value => bindsInOption value
  | .slice lower upper step => bindsInOption lower ++ bindsInOption upper ++ bindsInOption step
  | .formatted parts => bindsInParts parts

def bindsInAll : List Expr → List String
  | [] => []
  | expr :: exprs => expr.binds ++ bindsInAll exprs

def bindsInOption : Option Expr → List String
  | none => []
  | some expr => expr.binds

def bindsInKeywords : List Keyword → List String
  | [] => []
  | .mk _ value :: keywords => value.binds ++ bindsInKeywords keywords

def bindsInLinks : List CompareLink → List String
  | [] => []
  | .mk _ right :: links => right.binds ++ bindsInLinks links

def bindsInDictKeys : List DictEntry → List String
  | [] => []
  | .pair key _ :: entries => key.binds ++ bindsInDictKeys entries
  | .unpack _ :: entries => bindsInDictKeys entries

def bindsInDictValues : List DictEntry → List String
  | [] => []
  | .pair _ value :: entries | .unpack value :: entries =>
      value.binds ++ bindsInDictValues entries

def bindsInClauses : List Clause → List String
  | [] => []
  | .mk _ target source conditions :: clauses =>
      target.binds ++ source.binds ++ bindsInAll conditions ++ bindsInClauses clauses

def bindsInParts : List TextPart → List String
  | [] => []
  | .text _ :: parts => bindsInParts parts
  | .field value _ format :: parts => value.binds ++ bindsInFormat format ++ bindsInParts parts

def bindsInFormat : Option (List TextPart) → List String
  | none => []
  | some parts => bindsInParts parts

def Param.hintBinds : Param → List String
  | .mk _ hint _ => bindsInOption hint

def bindsInHint? : Option Param → List String
  | none => []
  | some param => param.hintBinds

def bindsInHints : List Param → List String
  | [] => []
  | param :: params => param.hintBinds ++ bindsInHints params

def Param.defaultBinds : Param → List String
  | .mk _ _ default => bindsInOption default

def bindsInDefaults : List Param → List String
  | [] => []
  | param :: params => param.defaultBinds ++ bindsInDefaults params

/-- The names bound in the hints and defaults of parameters, which are evaluated
outside of the function. -/
def Params.binds : Params → List String
  | .mk positionalOnly positional rest keywordOnly restKeywords =>
      bindsInHints positionalOnly ++ bindsInHints positional ++ bindsInHint? rest ++
        bindsInHints keywordOnly ++ bindsInDefaults keywordOnly ++ bindsInHint? restKeywords ++
        bindsInDefaults positionalOnly ++ bindsInDefaults positional

end

mutual

/-- The names that are assigned to when an expression is the target of an
assignment.  In a member or an element of something no name is. -/
def Expr.stored : Expr → List String
  | .name id => [id]
  | .tuple elements | .list elements => storedInAll elements
  | .starred value => value.stored
  | _ => []

def storedInAll : List Expr → List String
  | [] => []
  | expr :: exprs => expr.stored ++ storedInAll exprs

end

mutual

/-- The names that the expressions of a pattern bind. -/
def Pattern.binds : Pattern → List String
  | .value expr => expr.binds
  | .sequence patterns | .choice patterns => bindsInPatterns patterns
  | .star _ => []
  | .mapping keys patterns _ => bindsInAll keys ++ bindsInPatterns patterns
  | .instanceOf type patterns _ named =>
      type.binds ++ bindsInPatterns patterns ++ bindsInPatterns named
  | .capture pattern _ => bindsInPattern? pattern

def bindsInPatterns : List Pattern → List String
  | [] => []
  | pattern :: patterns => pattern.binds ++ bindsInPatterns patterns

def bindsInPattern? : Option Pattern → List String
  | none => []
  | some pattern => pattern.binds

end

mutual

def Pattern.captures : Pattern → List String
  | .value _ => []
  | .sequence patterns | .choice patterns => capturesInPatterns patterns
  | .star name => name.toList
  | .mapping _ patterns rest => capturesInPatterns patterns ++ rest.toList
  | .instanceOf _ patterns _ named => capturesInPatterns patterns ++ capturesInPatterns named
  | .capture pattern name => capturesInPattern? pattern ++ name.toList

def capturesInPatterns : List Pattern → List String
  | [] => []
  | pattern :: patterns => pattern.captures ++ capturesInPatterns patterns

def capturesInPattern? : Option Pattern → List String
  | none => []
  | some pattern => pattern.captures

end

def Expr.plainName : Expr → List String
  | .name id => [id]
  | _ => []

/-- The name that an import binds: the one given, or the first part of the path. -/
def ImportName.bound (imported : ImportName) : String :=
  imported.boundAs.getD (.ofList (imported.path.toList.takeWhile (· ≠ '.')))

/-- The names bound by the targets of an assignment. -/
def bindsInTargets : List Expr → List String
  | [] => []
  | target :: targets => target.stored ++ target.binds ++ bindsInTargets targets

/-- The names bound by the contexts of a block. -/
def bindsInContexts : List (Expr × Option Expr) → List String
  | [] => []
  | (context, target) :: items =>
      context.binds ++ (target.map Expr.stored).getD [] ++ bindsInOption target ++
        bindsInContexts items

def bindsInDecorators (decorators : List Decorator) : List String :=
  bindsInAll (decorators.map Decorator.expr)

mutual

/-- The names that a statement binds in its own scope.  An annotation without a value
binds nothing. -/
def Stmt.binds : Stmt → List String
  | .expression value => value.binds
  | .assign _ targets value => value.binds ++ bindsInTargets targets
  | .annotated _ target hint value =>
      bindsInOption value ++ hint.binds ++ target.binds ++
        if value.isSome then target.plainName else []
  | .augmented target _ value => target.binds ++ value.binds ++ target.plainName
  | .typeAlias name bounds value => bindsInAll bounds ++ value.binds ++ [name]
  | .delete targets => bindsInAll targets
  | .returns value => bindsInOption value
  | .raises exception cause => bindsInOption exception ++ bindsInOption cause
  | .asserts test message => test.binds ++ bindsInOption message
  | .imports names | .importsFrom _ names => names.map ImportName.bound
  | .declares _ | .idle => []
  | .branch test body orElse | .whileLoop test body orElse =>
      test.binds ++ bindsInStmts body ++ bindsInStmts orElse
  | .forLoop target source body orElse =>
      source.binds ++ (target.stored ++ target.binds) ++ bindsInStmts body ++ bindsInStmts orElse
  | .withBlock items body => bindsInContexts items ++ bindsInStmts body
  | .tryBlock body handlers orElse final =>
      bindsInStmts body ++ bindsInHandlers handlers ++ bindsInStmts orElse ++ bindsInStmts final
  | .matchBlock subject cases => subject.binds ++ bindsInCases cases
  | .function _ name params decorators result _ =>
      bindsInDecorators decorators ++ params.binds ++ bindsInOption result ++ [name]
  | .classDef (.mk name bases keywords decorators _) =>
      bindsInDecorators decorators ++ bindsInAll bases ++ bindsInKeywords keywords ++ [name]

def bindsInStmts : List Stmt → List String
  | [] => []
  | statement :: statements => statement.binds ++ bindsInStmts statements

def bindsInHandlers : List Handler → List String
  | [] => []
  | .mk type name body :: handlers =>
      bindsInOption type ++ name.toList ++ bindsInStmts body ++ bindsInHandlers handlers

def bindsInCases : List Case → List String
  | [] => []
  | .mk pattern guard body :: cases =>
      pattern.binds ++ pattern.captures ++ bindsInOption guard ++ bindsInStmts body ++
        bindsInCases cases

end

/-- The names that stand in those targets of an assignment that are no plain
names. -/
def disturbedByTargets : List Expr → List String
  | [] => []
  | .name _ :: targets => disturbedByTargets targets
  | target :: targets => target.names ++ disturbedByTargets targets

mutual

/-- The names that stand, assigned to or not, in a target of an assignment other than
a plain name or in the target of a loop, and those annotated without a value, in the
scope of the statement. -/
def Stmt.disturbs : Stmt → List String
  | .assign _ targets _ => disturbedByTargets targets
  | .annotated _ target _ none => target.plainName
  | .branch _ body orElse | .whileLoop _ body orElse =>
      disturbedByStmts body ++ disturbedByStmts orElse
  | .forLoop target _ body orElse =>
      target.names ++ disturbedByStmts body ++ disturbedByStmts orElse
  | .withBlock _ body => disturbedByStmts body
  | .tryBlock body handlers orElse final =>
      disturbedByStmts body ++ disturbedByHandlers handlers ++ disturbedByStmts orElse ++
        disturbedByStmts final
  | .matchBlock _ cases => disturbedByCases cases
  | _ => []

def disturbedByStmts : List Stmt → List String
  | [] => []
  | statement :: statements => statement.disturbs ++ disturbedByStmts statements

def disturbedByHandlers : List Handler → List String
  | [] => []
  | .mk _ _ body :: handlers => disturbedByStmts body ++ disturbedByHandlers handlers

def disturbedByCases : List Case → List String
  | [] => []
  | .mk _ _ body :: cases => disturbedByStmts body ++ disturbedByCases cases

end

/-! ## Names that are bound stand in the text -/

variable {name : String}

mutual

/-- What an expression binds is among its names. -/
theorem Expr.mem_names_of_mem_binds (expr : Expr) : name ∈ expr.binds → name ∈ expr.names := by
  match expr with
  | .literal _ | .name _ => simp [Expr.binds]
  | .attribute value _ | .unary _ value | .starred value | .await value | .yieldsFrom value =>
      simp only [Expr.binds, Expr.names]
      exact value.mem_names_of_mem_binds
  | .named target value =>
      simp only [Expr.binds, Expr.names, List.mem_append, List.mem_cons]
      rintro (hvalue | htarget)
      · exact .inr (value.mem_names_of_mem_binds hvalue)
      · exact .inl (by simpa using htarget)
  | .subscript value index =>
      simp only [Expr.binds, Expr.names, List.mem_append]
      exact Or.imp value.mem_names_of_mem_binds index.mem_names_of_mem_binds
  | .call _ func args keywords =>
      simp only [Expr.binds, Expr.names, List.mem_append]
      exact Or.imp (Or.imp func.mem_names_of_mem_binds (mem_namesInAll args))
        (mem_namesInKeywords keywords)
  | .lambda params body =>
      simp only [Expr.binds, Expr.names, List.mem_append]
      exact fun hname => .inl (params.mem_names_of_mem_binds hname)
  | .boolean _ values =>
      simp only [Expr.binds, Expr.names]
      exact mem_namesInAll values
  | .binary left _ right =>
      simp only [Expr.binds, Expr.names, List.mem_append]
      exact Or.imp left.mem_names_of_mem_binds right.mem_names_of_mem_binds
  | .conditional test body orElse =>
      simp only [Expr.binds, Expr.names, List.mem_append]
      exact Or.imp (Or.imp test.mem_names_of_mem_binds body.mem_names_of_mem_binds)
        orElse.mem_names_of_mem_binds
  | .compare left links =>
      simp only [Expr.binds, Expr.names, List.mem_append]
      exact Or.imp left.mem_names_of_mem_binds (mem_namesInLinks links)
  | .tuple elements | .list elements | .set elements =>
      simp only [Expr.binds, Expr.names]
      exact mem_namesInAll elements
  | .dict entries =>
      simp only [Expr.binds, Expr.names, List.mem_append]
      exact mem_namesInEntries entries
  | .comprehension _ element clauses =>
      simp only [Expr.binds, Expr.names, List.mem_append]
      exact Or.imp element.mem_names_of_mem_binds (mem_namesInClauses clauses)
  | .dictComprehension key value clauses =>
      simp only [Expr.binds, Expr.names, List.mem_append]
      exact Or.imp (Or.imp key.mem_names_of_mem_binds value.mem_names_of_mem_binds)
        (mem_namesInClauses clauses)
  | .yields value =>
      simp only [Expr.binds, Expr.names]
      exact mem_namesInOption value
  | .slice lower upper step =>
      simp only [Expr.binds, Expr.names, List.mem_append]
      exact Or.imp (Or.imp (mem_namesInOption lower) (mem_namesInOption upper))
        (mem_namesInOption step)
  | .formatted parts =>
      simp only [Expr.binds, Expr.names]
      exact mem_namesInParts parts

theorem mem_namesInAll (exprs : List Expr) : name ∈ bindsInAll exprs → name ∈ namesInAll exprs := by
  match exprs with
  | [] => simp [bindsInAll]
  | expr :: exprs =>
      simp only [bindsInAll, namesInAll, List.mem_append]
      exact Or.imp expr.mem_names_of_mem_binds (mem_namesInAll exprs)

theorem mem_namesInOption (expr : Option Expr) :
    name ∈ bindsInOption expr → name ∈ namesInOption expr := by
  match expr with
  | none => simp [bindsInOption]
  | some expr =>
      simp only [bindsInOption, namesInOption]
      exact expr.mem_names_of_mem_binds

theorem mem_namesInKeywords (keywords : List Keyword) :
    name ∈ bindsInKeywords keywords → name ∈ namesInKeywords keywords := by
  match keywords with
  | [] => simp [bindsInKeywords]
  | .mk _ value :: keywords =>
      simp only [bindsInKeywords, namesInKeywords, List.mem_append]
      exact Or.imp value.mem_names_of_mem_binds (mem_namesInKeywords keywords)

theorem mem_namesInLinks (links : List CompareLink) :
    name ∈ bindsInLinks links → name ∈ namesInLinks links := by
  match links with
  | [] => simp [bindsInLinks]
  | .mk _ right :: links =>
      simp only [bindsInLinks, namesInLinks, List.mem_append]
      exact Or.imp right.mem_names_of_mem_binds (mem_namesInLinks links)

-- The keys are evaluated before the values, but their names are collected by entry.
theorem mem_namesInEntries (entries : List DictEntry) :
    name ∈ bindsInDictKeys entries ∨ name ∈ bindsInDictValues entries →
      name ∈ namesInEntries entries := by
  match entries with
  | [] => simp [bindsInDictKeys, bindsInDictValues]
  | .pair key value :: entries =>
      simp only [bindsInDictKeys, bindsInDictValues, namesInEntries, List.mem_append]
      rintro ((hkey | hrest) | (hvalue | hrest))
      · exact .inl (.inl (key.mem_names_of_mem_binds hkey))
      · exact .inr (mem_namesInEntries entries (.inl hrest))
      · exact .inl (.inr (value.mem_names_of_mem_binds hvalue))
      · exact .inr (mem_namesInEntries entries (.inr hrest))
  | .unpack value :: entries =>
      simp only [bindsInDictKeys, bindsInDictValues, namesInEntries, List.mem_append]
      rintro (hrest | (hvalue | hrest))
      · exact .inr (mem_namesInEntries entries (.inl hrest))
      · exact .inl (value.mem_names_of_mem_binds hvalue)
      · exact .inr (mem_namesInEntries entries (.inr hrest))

theorem mem_namesInClauses (clauses : List Clause) :
    name ∈ bindsInClauses clauses → name ∈ namesInClauses clauses := by
  match clauses with
  | [] => simp [bindsInClauses]
  | .mk _ target source conditions :: clauses =>
      simp only [bindsInClauses, namesInClauses, List.mem_append]
      exact Or.imp
        (Or.imp (Or.imp target.mem_names_of_mem_binds source.mem_names_of_mem_binds)
          (mem_namesInAll conditions))
        (mem_namesInClauses clauses)

theorem mem_namesInParts (parts : List TextPart) :
    name ∈ bindsInParts parts → name ∈ namesInParts parts := by
  match parts with
  | [] => simp [bindsInParts]
  | .text _ :: parts =>
      simp only [bindsInParts, namesInParts]
      exact mem_namesInParts parts
  | .field value _ format :: parts =>
      simp only [bindsInParts, namesInParts, List.mem_append]
      exact Or.imp (Or.imp value.mem_names_of_mem_binds (mem_namesInFormat format))
        (mem_namesInParts parts)

theorem mem_namesInFormat (format : Option (List TextPart)) :
    name ∈ bindsInFormat format → name ∈ namesInFormat format := by
  match format with
  | none => simp [bindsInFormat]
  | some parts =>
      simp only [bindsInFormat, namesInFormat]
      exact mem_namesInParts parts

theorem Param.mem_names_of_mem_binds (param : Param) :
    name ∈ param.hintBinds ∨ name ∈ param.defaultBinds → name ∈ param.names := by
  match param with
  | .mk _ hint default =>
      simp only [Param.hintBinds, Param.defaultBinds, Param.names, List.mem_append]
      exact Or.imp (mem_namesInOption hint) (mem_namesInOption default)

theorem mem_namesInParam? (param : Option Param) :
    name ∈ bindsInHint? param → name ∈ namesInParam? param := by
  match param with
  | none => simp [bindsInHint?]
  | some param =>
      simp only [bindsInHint?, namesInParam?]
      exact fun hname => param.mem_names_of_mem_binds (.inl hname)

theorem mem_namesInParamList (params : List Param) :
    name ∈ bindsInHints params ∨ name ∈ bindsInDefaults params →
      name ∈ namesInParamList params := by
  match params with
  | [] => simp [bindsInHints, bindsInDefaults]
  | param :: params =>
      simp only [bindsInHints, bindsInDefaults, namesInParamList, List.mem_append]
      rintro ((hhint | hrest) | (hdefault | hrest))
      · exact .inl (param.mem_names_of_mem_binds (.inl hhint))
      · exact .inr (mem_namesInParamList params (.inl hrest))
      · exact .inl (param.mem_names_of_mem_binds (.inr hdefault))
      · exact .inr (mem_namesInParamList params (.inr hrest))

/-- What parameters bind is among their names. -/
theorem Params.mem_names_of_mem_binds (params : Params) :
    name ∈ params.binds → name ∈ params.names := by
  match params with
  | .mk positionalOnly positional rest keywordOnly restKeywords =>
      have honly := mem_namesInParamList positionalOnly
      have hpositional := mem_namesInParamList positional
      have hkeywords := mem_namesInParamList keywordOnly
      have hrest := mem_namesInParam? rest
      have hrestKeywords := mem_namesInParam? restKeywords
      simp only [Params.binds, Params.names, List.mem_append]
      grind

end

mutual

/-- What a target assigns to stands in it. -/
theorem Expr.mem_names_of_mem_stored (target : Expr) :
    name ∈ target.stored → name ∈ target.names := by
  match target with
  | .name id => simp [Expr.stored, Expr.names]
  | .tuple elements | .list elements =>
      simp only [Expr.stored, Expr.names]
      exact mem_namesInAll_of_stored elements
  | .starred value =>
      simp only [Expr.stored, Expr.names]
      exact value.mem_names_of_mem_stored
  | .literal _ | .attribute _ _ | .unary _ _ | .await _ | .yieldsFrom _ | .named _ _
  | .subscript _ _ | .call _ _ _ _ | .lambda _ _ | .boolean _ _ | .binary _ _ _
  | .conditional _ _ _ | .compare _ _ | .set _ | .dict _ | .comprehension _ _ _
  | .dictComprehension _ _ _ | .yields _ | .slice _ _ _ | .formatted _ => simp [Expr.stored]

theorem mem_namesInAll_of_stored (targets : List Expr) :
    name ∈ storedInAll targets → name ∈ namesInAll targets := by
  match targets with
  | [] => simp [storedInAll]
  | target :: targets =>
      simp only [storedInAll, namesInAll, List.mem_append]
      exact Or.imp target.mem_names_of_mem_stored (mem_namesInAll_of_stored targets)

end

end RouteScribe.Source
