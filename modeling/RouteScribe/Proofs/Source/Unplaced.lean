import RouteScribe.Schema.ClassBody

/-!
# Expressions without places

A call remembers where it starts, so an expression that is read from a text of its own is
not the expression that stands in a file, although both say the same.  Without the places of
its calls an expression is written the same, and so is everything that a type takes from it:
names, arguments and literals.
-/

namespace RouteScribe.Source

mutual

/-- An expression with all of its calls at one place. -/
def Expr.unplaced : Expr → Expr
  | .literal value => .literal value
  | .name id => .name id
  | .attribute value member => .attribute value.unplaced member
  | .subscript value index => .subscript value.unplaced index.unplaced
  | .call _ func args keywords =>
      .call default func.unplaced (unplacedAll args) (unplacedKeywords keywords)
  | .named target value => .named target value.unplaced
  | .lambda params body => .lambda params.unplaced body.unplaced
  | .boolean op values => .boolean op (unplacedAll values)
  | .binary left op right => .binary left.unplaced op right.unplaced
  | .unary op operand => .unary op operand.unplaced
  | .conditional test body orElse => .conditional test.unplaced body.unplaced orElse.unplaced
  | .compare left links => .compare left.unplaced (unplacedLinks links)
  | .tuple elements => .tuple (unplacedAll elements)
  | .list elements => .list (unplacedAll elements)
  | .set elements => .set (unplacedAll elements)
  | .dict entries => .dict (unplacedEntries entries)
  | .comprehension kind element clauses =>
      .comprehension kind element.unplaced (unplacedClauses clauses)
  | .dictComprehension key value clauses =>
      .dictComprehension key.unplaced value.unplaced (unplacedClauses clauses)
  | .starred value => .starred value.unplaced
  | .await value => .await value.unplaced
  | .yields value => .yields (unplacedOption value)
  | .yieldsFrom value => .yieldsFrom value.unplaced
  | .slice lower upper step =>
      .slice (unplacedOption lower) (unplacedOption upper) (unplacedOption step)
  | .formatted parts => .formatted (unplacedParts parts)

def unplacedAll : List Expr → List Expr
  | [] => []
  | expr :: exprs => expr.unplaced :: unplacedAll exprs

def unplacedOption : Option Expr → Option Expr
  | none => none
  | some expr => some expr.unplaced

def unplacedKeywords : List Keyword → List Keyword
  | [] => []
  | .mk name value :: keywords => .mk name value.unplaced :: unplacedKeywords keywords

def unplacedLinks : List CompareLink → List CompareLink
  | [] => []
  | .mk op right :: links => .mk op right.unplaced :: unplacedLinks links

def unplacedEntries : List DictEntry → List DictEntry
  | [] => []
  | .pair key value :: entries => .pair key.unplaced value.unplaced :: unplacedEntries entries
  | .unpack value :: entries => .unpack value.unplaced :: unplacedEntries entries

def unplacedClauses : List Clause → List Clause
  | [] => []
  | .mk isAsync target source conditions :: clauses =>
      .mk isAsync target.unplaced source.unplaced (unplacedAll conditions) ::
        unplacedClauses clauses

def unplacedParts : List TextPart → List TextPart
  | [] => []
  | .text content :: parts => .text content :: unplacedParts parts
  | .field value conversion format :: parts =>
      .field value.unplaced conversion (unplacedFormat format) :: unplacedParts parts

def unplacedFormat : Option (List TextPart) → Option (List TextPart)
  | none => none
  | some parts => some (unplacedParts parts)

def Param.unplaced : Param → Param
  | .mk name hint default => .mk name (unplacedOption hint) (unplacedOption default)

def unplacedParamList : List Param → List Param
  | [] => []
  | param :: params => param.unplaced :: unplacedParamList params

def unplacedParam? : Option Param → Option Param
  | none => none
  | some param => some param.unplaced

def Params.unplaced : Params → Params
  | .mk positionalOnly positional rest keywordOnly restKeywords =>
      .mk (unplacedParamList positionalOnly) (unplacedParamList positional)
        (unplacedParam? rest) (unplacedParamList keywordOnly) (unplacedParam? restKeywords)

end

theorem unplacedAll_eq_map (exprs : List Expr) :
    unplacedAll exprs = exprs.map Expr.unplaced := by
  induction exprs with
  | nil => rfl
  | cons expr exprs ih => rw [unplacedAll, ih, List.map_cons]

/-! ### What is written -/

@[simp]
theorem Expr.isInteger_unplaced (expr : Expr) : expr.unplaced.isInteger = expr.isInteger := by
  cases expr <;> rfl

@[simp]
theorem isEmpty_unplacedAll (exprs : List Expr) : (unplacedAll exprs).isEmpty = exprs.isEmpty := by
  cases exprs <;> rfl

/-- The strength that the place of an index needs: a tuple stands there without
parentheses. -/
def Expr.indexStrength : Expr → Strength
  | .tuple _ => .tuple
  | _ => .test

@[simp]
theorem Expr.indexStrength_unplaced (expr : Expr) :
    expr.unplaced.indexStrength = expr.indexStrength := by
  cases expr <;> rfl

theorem Expr.print_subscript (inField : Bool) (needed : Strength) (value index : Expr) :
    (Expr.subscript value index).print inField needed =
      value.print inField .atom ++ "[" ++ index.print inField index.indexStrength ++ "]" := by
  cases index with
  | tuple elements => cases elements <;> rfl
  | _ => rfl

-- An expression is written the same without places, whatever stands around it.
mutual

/-- An expression is printed alike in any place. -/
theorem Expr.print_unplaced (expr : Expr) (inField : Bool) (needed : Strength) :
    expr.unplaced.print inField needed = expr.print inField needed := by
  match expr with
  | .literal _ | .name _ => rfl
  | .attribute value _ =>
      simp only [Expr.unplaced, Expr.print, value.print_unplaced, Expr.isInteger_unplaced]
  | .subscript value index =>
      simp only [Expr.unplaced, Expr.print_subscript, value.print_unplaced,
        index.print_unplaced, Expr.indexStrength_unplaced]
  | .unary _ value | .starred value | .await value | .yieldsFrom value | .named _ value =>
      simp only [Expr.unplaced, Expr.print, value.print_unplaced]
  | .call _ func args keywords =>
      simp only [Expr.unplaced, Expr.print, func.print_unplaced, printAll_unplaced args,
        printKeywords_unplaced keywords]
  | .lambda params body =>
      simp only [Expr.unplaced, Expr.print, params.print_unplaced, body.print_unplaced]
  | .boolean op values =>
      simp only [Expr.unplaced, Expr.print, printRising_unplaced values]
  | .tuple elements =>
      simp only [Expr.unplaced, Expr.print, printAll_unplaced elements, isEmpty_unplacedAll]
  | .list elements | .set elements =>
      simp only [Expr.unplaced, Expr.print, printAll_unplaced elements]
  | .binary left op right =>
      simp only [Expr.unplaced, Expr.print, left.print_unplaced, right.print_unplaced]
  | .conditional test body orElse =>
      simp only [Expr.unplaced, Expr.print, test.print_unplaced, body.print_unplaced,
        orElse.print_unplaced]
  | .compare left links =>
      simp only [Expr.unplaced, Expr.print, left.print_unplaced, printLinks_unplaced links]
  | .dict entries => simp only [Expr.unplaced, Expr.print, printEntries_unplaced entries]
  | .comprehension kind element clauses =>
      simp only [Expr.unplaced, Expr.print, element.print_unplaced,
        printClauses_unplaced clauses]
  | .dictComprehension key value clauses =>
      simp only [Expr.unplaced, Expr.print, key.print_unplaced, value.print_unplaced,
        printClauses_unplaced clauses]
  | .yields none => rfl
  | .yields (some value) =>
      simp only [Expr.unplaced, unplacedOption, Expr.print, value.print_unplaced]
  | .slice lower upper step =>
      simp only [Expr.unplaced, Expr.print, printOption_unplaced lower,
        printOption_unplaced upper, printOption_unplaced step]
  | .formatted parts => simp only [Expr.unplaced, Expr.print, printParts_unplaced parts]

theorem printAll_unplaced (exprs : List Expr) (inField : Bool) (needed : Strength) :
    printAll inField needed (unplacedAll exprs) = printAll inField needed exprs := by
  match exprs with
  | [] => rfl
  | expr :: exprs => simp only [unplacedAll, printAll, expr.print_unplaced, printAll_unplaced exprs]

theorem printRising_unplaced (exprs : List Expr) (inField : Bool) (strength : Strength) :
    printRising inField strength (unplacedAll exprs) = printRising inField strength exprs := by
  match exprs with
  | [] => rfl
  | expr :: exprs =>
      simp only [unplacedAll, printRising, expr.print_unplaced, printRising_unplaced exprs]

theorem printOption_unplaced (expr : Option Expr) (inField : Bool) :
    printOption inField (unplacedOption expr) = printOption inField expr := by
  match expr with
  | none => rfl
  | some expr => simp only [unplacedOption, printOption, expr.print_unplaced]

theorem printKeywords_unplaced (keywords : List Keyword) (inField : Bool) :
    printKeywords inField (unplacedKeywords keywords) = printKeywords inField keywords := by
  match keywords with
  | [] => rfl
  | .mk none value :: keywords | .mk (some _) value :: keywords =>
      simp only [unplacedKeywords, printKeywords, value.print_unplaced,
        printKeywords_unplaced keywords]

theorem printLinks_unplaced (links : List CompareLink) (inField : Bool) :
    printLinks inField (unplacedLinks links) = printLinks inField links := by
  match links with
  | [] => rfl
  | .mk _ right :: links =>
      simp only [unplacedLinks, printLinks, right.print_unplaced, printLinks_unplaced links]

theorem printEntries_unplaced (entries : List DictEntry) (inField : Bool) :
    printEntries inField (unplacedEntries entries) = printEntries inField entries := by
  match entries with
  | [] => rfl
  | .pair key value :: entries =>
      simp only [unplacedEntries, printEntries, key.print_unplaced, value.print_unplaced,
        printEntries_unplaced entries]
  | .unpack value :: entries =>
      simp only [unplacedEntries, printEntries, value.print_unplaced,
        printEntries_unplaced entries]

theorem printConditions_unplaced (conditions : List Expr) (inField : Bool) :
    printConditions inField (unplacedAll conditions) = printConditions inField conditions := by
  match conditions with
  | [] => rfl
  | condition :: conditions =>
      simp only [unplacedAll, printConditions, condition.print_unplaced,
        printConditions_unplaced conditions]

theorem printClauses_unplaced (clauses : List Clause) (inField : Bool) :
    printClauses inField (unplacedClauses clauses) = printClauses inField clauses := by
  match clauses with
  | [] => rfl
  | .mk _ target source conditions :: clauses =>
      simp only [unplacedClauses, printClauses, target.print_unplaced, source.print_unplaced,
        printConditions_unplaced conditions, printClauses_unplaced clauses]

theorem printParts_unplaced (parts : List TextPart) :
    printParts (unplacedParts parts) = printParts parts := by
  match parts with
  | [] => rfl
  | .text _ :: parts => simp only [unplacedParts, printParts, printParts_unplaced parts]
  | .field value _ format :: parts =>
      simp only [unplacedParts, printParts, value.print_unplaced, printFormat_unplaced format,
        printParts_unplaced parts]

theorem printFormat_unplaced (format : Option (List TextPart)) :
    printFormat (unplacedFormat format) = printFormat format := by
  match format with
  | none => rfl
  | some parts => simp only [unplacedFormat, printFormat, printParts_unplaced parts]

theorem Param.print_unplaced (param : Param) (inField : Bool) :
    param.unplaced.print inField = param.print inField := by
  match param with
  | .mk _ hint default =>
      simp only [Param.unplaced, Param.print, printOption_unplaced hint,
        printOption_unplaced default]

theorem printParamList_unplaced (params : List Param) (inField : Bool) :
    printParamList inField (unplacedParamList params) = printParamList inField params := by
  match params with
  | [] => rfl
  | param :: params =>
      simp only [unplacedParamList, printParamList, param.print_unplaced,
        printParamList_unplaced params]

theorem printParam?_unplaced (param : Option Param) (inField : Bool) :
    printParam? inField (unplacedParam? param) = printParam? inField param := by
  match param with
  | none => rfl
  | some param => simp only [unplacedParam?, printParam?, param.print_unplaced]

theorem Params.print_unplaced (params : Params) (inField : Bool) :
    params.unplaced.print inField = params.print inField := by
  match params with
  | .mk positionalOnly positional rest keywordOnly restKeywords =>
      simp only [Params.unplaced, Params.print, printParamList_unplaced positionalOnly,
        printParamList_unplaced positional, printParam?_unplaced rest,
        printParamList_unplaced keywordOnly, printParam?_unplaced restKeywords]

end

/-! ### What a type takes from an expression -/

namespace Expr

@[simp]
theorem text_unplaced (expr : Expr) : expr.unplaced.text = expr.text :=
  expr.print_unplaced false .test

@[simp]
theorem simpleName_unplaced (expr : Expr) : expr.unplaced.simpleName = expr.simpleName := by
  cases expr <;> first | exact text_unplaced _ | rfl

@[simp]
theorem literal?_unplaced (expr : Expr) : expr.unplaced.literal? = expr.literal? := by
  cases expr <;> rfl

theorem subscriptArgs_unplaced (index : Expr) :
    index.unplaced.subscriptArgs = index.subscriptArgs.map Expr.unplaced := by
  cases index with
  | tuple elements => exact unplacedAll_eq_map elements
  | _ => rfl

end Expr

end RouteScribe.Source
