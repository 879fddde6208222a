import RouteScribe.Proofs.Source.CallStarts
import RouteScribe.Source.Parser

/-!
# Where the calls of a program start

Patterns and statements hold expressions, so their calls start where those of the expressions
do.  Tied together, the rules of the grammar yield programs whose calls all start at tokens
that were given to them, or at tokens in the fields of formatted texts among these.
-/

namespace RouteScribe.Source

variable {known : Token → Prop}

attribute [local simp] Pattern.calls callsInPatterns Stmt.calls callsInStatements callsInHandlers
  callsInCases

/-! ### Lists of patterns and statements -/

@[simp]
theorem starts_callsInPatterns {patterns : List Pattern} :
    Starts known (callsInPatterns patterns) ↔
      ∀ pattern ∈ patterns, Starts known pattern.calls := by
  induction patterns with
  | nil => simp
  | cons pattern patterns ih => simp [ih]

@[simp]
theorem starts_callsInStatements {statements : List Stmt} :
    Starts known (callsInStatements statements) ↔
      ∀ statement ∈ statements, Starts known statement.calls := by
  induction statements with
  | nil => simp
  | cons statement statements ih => simp [ih]

theorem starts_callsInHandlers {handlers : List Handler}
    (hhandlers : ∀ handler ∈ handlers, Starts known (callsInHandlers [handler])) :
    Starts known (callsInHandlers handlers) := by
  induction handlers with
  | nil => simp
  | cons handler handlers ih =>
      rw [List.forall_mem_cons] at hhandlers
      cases handler
      simpa [ih hhandlers.2] using hhandlers.1

theorem starts_callsInCases {cases : List Case}
    (hcases : ∀ clause ∈ cases, Starts known (callsInCases [clause])) :
    Starts known (callsInCases cases) := by
  induction cases with
  | nil => simp
  | cons clause cases ih =>
      rw [List.forall_mem_cons] at hcases
      cases clause
      simpa [ih hcases.2] using hcases.1

namespace Rule

/-! ### Patterns -/

theorem captureName_passes : captureName.Passes known :=
  .after .name fun _ => .after (.check _) fun _ => .after (.nextIs _) fun _ =>
    .after (.nextIs _) fun _ => .after (.nextIs _) fun _ => .after (.check _) fun _ =>
    .pure trivial

theorem numberToken_passes : numberToken.Passes known := by
  intro tokens hknown found rest hread
  cases tokens with
  | nil => cases hread
  | cons token tokens =>
      simp only [numberToken] at hread
      split at hread
      · cases hread
        exact ⟨trivial, hknown.tail⟩
      · cases hread

theorem numberPattern_keeps : numberPattern.Keeps known Expr.calls := by
  refine .after (.takeSymbol "-") fun isNegative => .after numberToken_passes fun number => ?_
  have hsigned : Starts known
      (if isNegative then Expr.unary .minus (.literal number) else .literal number).calls := by
    split <;> exact starts_nil
  refine .after (operator_passes _).maybe.passes fun op => ?_
  match op with
  | some op =>
      exact .after numberToken_passes fun _ => .after (.check _) fun _ =>
        .pure (starts_append.mpr ⟨hsigned, starts_nil⟩)
  | none => exact .pure hsigned

theorem dottedValue_keeps : dottedValue.Keeps known Expr.calls := by
  have hstep : ∀ value : Expr, Starts known value.calls →
      (do symbol "."; return .attribute value (← name) : Rule Expr).Keeps known Expr.calls :=
    fun _ hvalue => .after (.symbol ".") fun _ => .after .name fun _ => .pure hvalue
  exact .after .name fun _ => .extend hstep starts_nil

theorem attributeValue_keeps : attributeValue.Keeps known Expr.calls := by
  refine .bind dottedValue_keeps fun value hvalue => ?_
  split
  · exact .failure
  · exact .pure hvalue

theorem starPattern_keeps : starPattern.Keeps known Pattern.calls :=
  .after (.symbol "*") fun _ => .after .name fun _ => .pure starts_nil

def partCalls (parts : List Pattern × List (String × Pattern)) : List NodeStart :=
  callsInPatterns parts.1 ++ callsInPatterns (parts.2.map (·.2))

def itemCalls (item : Expr × Option Expr) : List NodeStart :=
  item.1.calls ++ callsInOption item.2

section Entry

variable {rules : Rules} (hrules : rules.Keep known)
include hrules

theorem literalPattern_keeps : (literalPattern rules).Keeps known Expr.calls := by
  refine .peekThen fun token => ?_
  split
  · exact numberPattern_keeps
  · exact numberPattern_keeps
  · exact strings_keeps hrules
  · split
    · exact .after skipToken_passes fun _ => .pure starts_nil
    · exact .failure
  · exact .failure

theorem sequencePart_keeps : (sequencePart rules).Keeps known Pattern.calls :=
  .orElse starPattern_keeps hrules.pattern

theorem moreParts_keeps : (moreParts rules).Keeps known callsInPatterns := by
  refine .bind (sequencePart_keeps hrules).commaList.maybe fun patterns hpatterns => ?_
  match patterns with
  | some (patterns, _) => exact .pure (starts_callsInPatterns.mpr (hpatterns _ rfl))
  | none => exact .pure starts_nil

theorem mappingEntry_keeps :
    (mappingEntry rules).Keeps known fun entry => entry.1.calls ++ entry.2.calls :=
  .bind (.orElse (literalPattern_keeps hrules) attributeValue_keeps) fun _ hkey =>
    .after (.symbol ":") fun _ => .bind hrules.pattern fun _ hvalue =>
    .pure (starts_append.mpr ⟨hkey, hvalue⟩)

omit hrules in
theorem mappingRest_passes : mappingRest.Passes known :=
  .after (.symbol "**") fun _ => captureName_passes

/-- The calls of a mapping pattern start at known tokens. -/
theorem mappingPattern_keeps : (mappingPattern rules).Keeps known Pattern.calls := by
  have hentries : (separated "," (mappingEntry rules) <|> pure []).Yields known fun entries =>
      ∀ entry ∈ entries, Starts known (entry.1.calls ++ entry.2.calls) :=
    .orElse ((mappingEntry_keeps hrules).separated ",") (.pure (List.forall_mem_nil _))
  have hclose : ∀ (entries : List (Expr × Pattern)) (rest : Option String),
      (∀ entry ∈ entries, Starts known (entry.1.calls ++ entry.2.calls)) →
        (do
          discard (takeSymbol ",")
          symbol "\x7d"
          return .mapping (entries.map (·.1)) (entries.map (·.2)) rest :
            Rule Pattern).Keeps known Pattern.calls := by
    intro entries rest hentries
    refine .after (Passes.takeSymbol ",").discard fun _ => .after (.symbol _) fun _ =>
      .pure ?_
    simp only [starts_append] at hentries
    simp only [Pattern.calls, starts_append, starts_callsInAll, starts_callsInPatterns,
      List.forall_mem_map]
    exact ⟨fun entry hentry => (hentries entry hentry).1,
      fun entry hentry => (hentries entry hentry).2⟩
  refine .after (.symbol _) fun _ => .bind hentries fun entries hentries => ?_
  dsimp only
  split
  · exact .after mappingRest_passes.maybe.passes fun _ => hclose _ _ hentries
  · exact .after (Yields.maybe (.after (.symbol ",") fun _ => mappingRest_passes)).passes
      fun _ => hclose _ _ hentries

theorem namedPart_keeps : (namedPart rules).Keeps known fun part => part.2.calls :=
  .after .name fun _ => .after (.symbol "=") fun _ => .bind hrules.pattern fun _ hvalue =>
    .pure hvalue

theorem instanceParts_keeps : (instanceParts rules).Keeps known partCalls := by
  have hnamed := (namedPart_keeps hrules).separated ","
  have hpart : (do check (!(← startsKeyword)); rules.pattern : Rule Pattern).Keeps known
      Pattern.calls :=
    .after startsKeyword_passes fun _ => .after (.check _) fun _ => hrules.pattern
  have hclose : ∀ {positional : List Pattern} {named : List (String × Pattern)},
      (∀ pattern ∈ positional, Starts known pattern.calls) →
        (∀ part ∈ named, Starts known part.2.calls) →
          Starts known (partCalls (positional, named)) := by
    intro positional named hpositional hnamed
    simpa [partCalls] using ⟨hpositional, fun pattern id hpart => hnamed (id, pattern) hpart⟩
  refine .bind hnamed.maybe fun named hall => ?_
  match named with
  | some named => exact .pure (hclose (List.forall_mem_nil _) (hall _ rfl))
  | none =>
      refine .bind (.orElse (hpart.separated ",") (.pure (List.forall_mem_nil _)))
        fun positional hpositional => ?_
      dsimp only
      split
      · exact .pureBind (.pure (hclose hpositional (List.forall_mem_nil _)))
      · refine .bind (.orElse (.after (.symbol ",") fun _ => hnamed)
          (.pure (List.forall_mem_nil _))) fun named hnamed => .pure (hclose hpositional hnamed)

theorem instancePattern_keeps {type : Expr} (htype : Starts known type.calls) :
    (instancePattern rules type).Keeps known Pattern.calls := by
  refine .after (.symbol "(") fun _ => .ifSymbol ")" ?_ ?_
  · exact .pure (by simpa using htype)
  · refine .bind (instanceParts_keeps hrules) fun ⟨positional, named⟩ hparts =>
      .after (.check _) fun _ => .after (Passes.takeSymbol ",").discard fun _ =>
      .after (.symbol ")") fun _ => .pure ?_
    rw [partCalls, starts_append] at hparts
    rw [Pattern.calls, starts_append, starts_append]
    exact ⟨⟨htype, hparts.1⟩, hparts.2⟩

theorem namePattern_keeps : (namePattern rules).Keeps known Pattern.calls := by
  refine .bind dottedValue_keeps fun value hvalue => .ifNext _ (instancePattern_keeps hrules hvalue)
    (.after (.nextIs _) fun _ => .after (.check _) fun _ => ?_)
  split
  · exact .pure starts_nil
  · exact .pure hvalue

theorem groupPattern_keeps : (groupPattern rules).Keeps known Pattern.calls := by
  refine .after (.symbol "(") fun _ => .ifSymbol ")" (.pure starts_nil)
    (.bind (sequencePart_keeps hrules) fun first hfirst => .ifSymbol "," ?_ ?_)
  · exact .bind (moreParts_keeps hrules) fun _ hothers => .after (.symbol ")") fun _ =>
      .pure (starts_append.mpr ⟨hfirst, hothers⟩)
  · refine .after (.symbol ")") fun _ => ?_
    split
    · exact .failure
    · exact .pure hfirst

theorem listPattern_keeps : (listPattern rules).Keeps known Pattern.calls := by
  refine .after (.symbol "[") fun _ => .ifSymbol "]" (.pure starts_nil)
    (.bind (sequencePart_keeps hrules) fun first hfirst => .ifSymbol ","
      (.bind (moreParts_keeps hrules) fun others hothers => ?_) (.pureBind ?_))
  · exact .after (.symbol "]") fun _ => .pure (starts_append.mpr ⟨hfirst, hothers⟩)
  · exact .after (.symbol "]") fun _ => .pure (starts_append.mpr ⟨hfirst, starts_nil⟩)

theorem closedPattern_keeps : (closedPattern rules).Keeps known Pattern.calls := by
  refine .peekThen fun token => ?_
  split
  · exact groupPattern_keeps hrules
  · exact listPattern_keeps hrules
  · exact mappingPattern_keeps hrules
  · exact .orElse (.bind (literalPattern_keeps hrules) fun _ hvalue => .pure hvalue)
      (namePattern_keeps hrules)

theorem pattern_keeps : (pattern rules).Keeps known Pattern.calls := by
  refine .bind ((closedPattern_keeps hrules).separated "|") fun choices hchoices => ?_
  dsimp only
  split
  · have hsingle := hchoices _ List.mem_cons_self
    exact .ifKeyword "as" (.after captureName_passes fun _ => .pure hsingle) (.pure hsingle)
  · have hseveral := starts_callsInPatterns.mpr hchoices
    exact .ifKeyword "as" (.after captureName_passes fun _ => .pure hseveral) (.pure hseveral)

theorem casePattern_keeps : (casePattern rules).Keeps known Pattern.calls := by
  refine .bind (.orElse starPattern_keeps (pattern_keeps hrules)) fun first hfirst =>
    .ifSymbol "," ?_ ?_
  · exact .bind (moreParts_keeps hrules) fun _ hothers =>
      .pure (starts_append.mpr ⟨hfirst, hothers⟩)
  · split
    · exact .failure
    · exact .pure hfirst

/-! ### Simple statements -/

theorem assignedValue_keeps : (assignedValue rules).Keeps known Expr.calls :=
  .ifNext _ (yieldExpression_keeps hrules) (starExpressions_keeps hrules)

theorem assignmentChain_keeps :
    (assignmentChain rules).Keeps known fun chain => callsInAll chain.1 ++ chain.2.calls := by
  refine .bind ((assignedValue_keeps hrules).separated "=") fun values hvalues => ?_
  have hreversed : ∀ value ∈ values.reverse, Starts known value.calls :=
    fun value hvalue => hvalues value (List.mem_reverse.mp hvalue)
  dsimp only
  split
  · rename_i value targets hsplit
    rw [hsplit, List.forall_mem_cons] at hreversed
    refine .after (.check _) fun _ => .pure (starts_append.mpr ⟨?_, hreversed.1⟩)
    exact starts_callsInAll.mpr fun target htarget =>
      hreversed.2 target (List.mem_reverse.mp htarget)
  · exact .failure

omit hrules in
theorem augmentedOp_passes : augmentedOp.Passes known := by
  refine Yields.firstOf fun rule hrule => ?_
  obtain ⟨op, -, rfl⟩ := List.mem_map.mp hrule
  exact .after (.symbol _) fun _ => .pure trivial

theorem expressionStatement_keeps : (expressionStatement rules).Keeps known Stmt.calls := by
  refine .after .here fun start => .bind (assignedValue_keeps hrules) fun first hfirst =>
    .ifSymbol "=" ?_ (.ifSymbol ":" ?_ ?_)
  · refine .after (.check _) fun _ => .bind (assignmentChain_keeps hrules)
      fun ⟨targets, value⟩ hchain => .pure ?_
    rw [starts_append] at hchain
    rw [Stmt.calls, callsInAll, starts_append, starts_append]
    exact ⟨⟨hfirst, hchain.1⟩, hchain.2⟩
  · refine .after (.check _) fun _ => .bind (expression_keeps hrules) fun hint hhint =>
      .ifSymbol "=" (.bind (assignedValue_keeps hrules).given fun value hvalue => .pure ?_)
        (.pureBind (.pure ?_))
    · simpa [hfirst, hhint] using hvalue
    · simp [hfirst, hhint]
  · refine .after augmentedOp_passes.maybe.passes fun op => ?_
    match op with
    | some op =>
        exact .after (.check _) fun _ => .bind (assignedValue_keeps hrules) fun _ hvalue =>
          .pure (starts_append.mpr ⟨hfirst, hvalue⟩)
    | none => exact .pure hfirst

theorem typeParam_keeps : (typeParam rules).Keeps known callsInOption := by
  refine .orElse ?_ (.orElse ?_ ?_)
  · exact .after .name fun _ =>
      (Yields.maybe (.after (.symbol ":") fun _ => expression_keeps hrules)).mono
        fun _ => starts_callsInOption.mpr
  · exact .after (.symbol "*") fun _ => .after .name fun _ => .pure starts_nil
  · exact .after (.symbol "**") fun _ => .after .name fun _ => .pure starts_nil

theorem typeParams_keeps : (typeParams rules).Keeps known callsInAll := by
  refine .ifSymbol "[" (.bind (typeParam_keeps hrules).commaList fun ⟨params, _⟩ hparams =>
    .after (.symbol "]") fun _ => .pure ?_) (.pure starts_nil)
  rw [starts_callsInAll]
  intro expr hexpr
  obtain ⟨param, hparam, hexpr⟩ := List.mem_flatMap.mp hexpr
  exact starts_callsInOption.mp (hparams param hparam) expr (Option.mem_toList.mp hexpr)

theorem typeAlias_keeps : (typeAlias rules).Keeps known Stmt.calls :=
  .after (.keyword "type") fun _ => .after .name fun _ =>
    .bind (typeParams_keeps hrules) fun _ hbounds => .after (.symbol "=") fun _ =>
    .bind (expression_keeps hrules) fun _ hvalue => .pure (starts_append.mpr ⟨hbounds, hvalue⟩)

omit hrules in
theorem dottedName_passes : dottedName.Passes known :=
  .after (Passes.name.separated ".").passes fun _ => .pure trivial

omit hrules in
theorem asName_passes : (do keyword "as"; name : Rule String).Passes known :=
  .after (.keyword "as") fun _ => Passes.name

omit hrules in
theorem importedModule_passes : importedModule.Passes known :=
  .after dottedName_passes fun _ => .after asName_passes.maybe.passes fun _ => .pure trivial

omit hrules in
theorem importedName_passes : importedName.Passes known :=
  .after .name fun _ => .after asName_passes.maybe.passes fun _ => .pure trivial

omit hrules in
theorem importedNames_passes : importedNames.Passes known :=
  .ifSymbol "*" (.pure trivial) (.ifSymbol "("
    (.after importedName_passes.commaList.passes fun _ => .after (.symbol ")") fun _ =>
      .pure trivial)
    (importedName_passes.separated ",").passes)

omit hrules in
theorem leadingDots_passes : leadingDots.Passes known := by
  have hdots : ((do symbol "."; return ".") <|> (do symbol "..."; return "...") :
      Rule String).Passes known :=
    .orElse (.after (.symbol ".") fun _ => .pure trivial)
      (.after (.symbol "...") fun _ => .pure trivial)
  exact .after hdots.many.passes fun _ => .pure trivial

omit hrules in
theorem importFrom_keeps : importFrom.Keeps known Stmt.calls :=
  .after (.keyword "from") fun _ => .after leadingDots_passes fun _ =>
    .after dottedName_passes.maybe.passes fun _ => .after (.check _) fun _ =>
    .after (.keyword "import") fun _ => .after importedNames_passes fun _ => .pure starts_nil

theorem deletion_keeps : (deletion rules).Keeps known Stmt.calls :=
  .after (.keyword "del") fun _ => .bind (primary_keeps hrules).commaList fun _ htargets =>
    .after (.check _) fun _ => .after (.nextIs _) fun _ => .after (.nextIs _) fun _ =>
    .after (.check _) fun _ => .pure (starts_callsInAll.mpr htargets)

theorem raising_keeps : (raising rules).Keeps known Stmt.calls := by
  refine .after (.keyword "raise") fun _ => .bind (expression_keeps hrules).maybe
    fun exception hexception => ?_
  match exception with
  | some exception =>
      exact .bind (.maybe (.after (.keyword "from") fun _ => expression_keeps hrules))
        fun _ hcause => .pure (starts_append.mpr ⟨hexception _ rfl,
          starts_callsInOption.mpr hcause⟩)
  | none => exact .pure starts_nil

/-- The calls of a simple statement start at known tokens. -/
theorem simpleStatement_keeps : (simpleStatement rules).Keeps known Stmt.calls := by
  refine .peekThen fun token => ?_
  have hidle : (do skipToken; return .idle : Rule Stmt).Keeps known Stmt.calls :=
    .after skipToken_passes fun _ => .pure starts_nil
  have hnames : (do skipToken; return .declares (← separated "," name) : Rule Stmt).Keeps known
      Stmt.calls :=
    .after skipToken_passes fun _ => .after (Passes.name.separated ",").passes fun _ =>
      .pure starts_nil
  split
  · exact hidle
  · exact hidle
  · exact hidle
  · exact .after skipToken_passes fun _ => .bind (starExpressions_keeps hrules).maybe
      fun _ hvalue => .pure (starts_callsInOption.mpr hvalue)
  · exact .after skipToken_passes fun _ => .after (importedModule_passes.separated ",").passes
      fun _ => .pure starts_nil
  · exact importFrom_keeps
  · exact raising_keeps hrules
  · exact deletion_keeps hrules
  · exact .after skipToken_passes fun _ => .bind (expression_keeps hrules) fun _ htest =>
      .bind (.maybe (.after (.symbol ",") fun _ => expression_keeps hrules)) fun _ hmessage =>
      .pure (starts_append.mpr ⟨htest, starts_callsInOption.mpr hmessage⟩)
  · exact hnames
  · exact hnames
  · exact .orElse (typeAlias_keeps hrules) (expressionStatement_keeps hrules)
  · exact expressionStatement_keeps hrules

theorem simpleStatements_keeps : (simpleStatements rules).Keeps known callsInStatements :=
  .bind ((simpleStatement_keeps hrules).separated ";") fun _ hstatements =>
    .after (Passes.takeSymbol ";").discard fun _ => .after (.kind _) fun _ =>
    .pure (starts_callsInStatements.mpr hstatements)

/-! ### Compound statements -/

theorem block_keeps : (block rules).Keeps known callsInStatements :=
  .after (.symbol ":") fun _ => .ifNext _
    (.after (.kind _) fun _ => .after (.kind _) fun _ => .bind hrules.statements
      fun _ hstatements => .after (.check _) fun _ => .after (.kind _) fun _ =>
      .pure hstatements)
    (simpleStatements_keeps hrules)

theorem elseBlock_keeps : (elseBlock rules).Keeps known callsInStatements :=
  .ifKeyword "else" (block_keeps hrules) (.pure starts_nil)

theorem alternatives_keeps (fuel : Nat) :
    (alternatives rules fuel).Keeps known callsInStatements := by
  induction fuel with
  | zero => exact .failure
  | succ fuel ih =>
      refine .ifKeyword "elif" ?_ (elseBlock_keeps hrules)
      refine .bind (namedExpression_keeps hrules) fun test htest =>
        .bind (block_keeps hrules) fun body hbody => .bind ih fun others hothers => .pure ?_
      simp only [callsInStatements, Stmt.calls, starts_append, starts_nil, and_true]
      exact ⟨⟨htest, hbody⟩, hothers⟩

theorem branching_keeps : (branching rules).Keeps known Stmt.calls :=
  .after (.keyword "if") fun _ => .bind (namedExpression_keeps hrules) fun _ htest =>
    .bind (block_keeps hrules) fun _ hbody => .getThen fun _ =>
    .bind (alternatives_keeps hrules _) fun _ hothers =>
    .pure (starts_append.mpr ⟨starts_append.mpr ⟨htest, hbody⟩, hothers⟩)

theorem whileLoop_keeps : (whileLoop rules).Keeps known Stmt.calls :=
  .after (.keyword "while") fun _ => .bind (namedExpression_keeps hrules) fun _ htest =>
    .bind (block_keeps hrules) fun _ hbody => .bind (elseBlock_keeps hrules) fun _ hothers =>
    .pure (starts_append.mpr ⟨starts_append.mpr ⟨htest, hbody⟩, hothers⟩)

theorem forLoop_keeps : (forLoop rules).Keeps known Stmt.calls :=
  .after (.keyword "for") fun _ => .bind (starTargets_keeps hrules) fun _ htarget =>
    .after (.keyword "in") fun _ => .bind (starExpressions_keeps hrules) fun _ hsource =>
    .bind (block_keeps hrules) fun _ hbody => .bind (elseBlock_keeps hrules) fun _ hothers =>
    .pure (starts_append.mpr
      ⟨starts_append.mpr ⟨starts_append.mpr ⟨htarget, hsource⟩, hbody⟩, hothers⟩)

theorem withItem_keeps : (withItem rules).Keeps known itemCalls := by
  have htarget : (do
      keyword "as"
      let target ← starTarget rules
      check ((← nextIsSymbol ",") || (← nextIsSymbol ")") || (← nextIsSymbol ":"))
      return target : Rule Expr).Keeps known Expr.calls :=
    .after (.keyword "as") fun _ => .bind (starTarget_keeps hrules) fun _ htarget =>
      .after (.nextIs _) fun _ => .after (.nextIs _) fun _ => .after (.nextIs _) fun _ =>
      .after (.check _) fun _ => .pure htarget
  exact .bind (expression_keeps hrules) fun _ hcontext => .bind htarget.maybe fun _ hfound =>
    .pure (starts_append.mpr ⟨hcontext, starts_callsInOption.mpr hfound⟩)

theorem groupedItems_keeps : (groupedItems rules).Yields known fun items =>
    ∀ item ∈ items, Starts known (itemCalls item) :=
  .after (.symbol "(") fun _ => .bind (withItem_keeps hrules).commaList fun _ hitems =>
    .after (.symbol ")") fun _ => .after (.nextIs _) fun _ => .after (.check _) fun _ =>
    .pure hitems

theorem withBlock_keeps : (withBlock rules).Keeps known Stmt.calls :=
  .after (.keyword "with") fun _ =>
    .bind (.orElse (groupedItems_keeps hrules) ((withItem_keeps hrules).separated ","))
      fun _ hitems => .bind (block_keeps hrules) fun _ hbody =>
      .pure (starts_append.mpr ⟨starts_flatMap.mpr hitems, hbody⟩)

theorem handler_keeps (isStarred : Bool) :
    (handler rules isStarred).Keeps known fun handler => callsInHandlers [handler] := by
  have hrest : ∀ type : Option Expr, (∀ expr ∈ type, Starts known expr.calls) →
      (do
        check (!isStarred || type.isSome)
        let id ← if type.isSome then maybe (do keyword "as"; name) else pure none
        return .mk type id (← block rules) : Rule Handler).Keeps known
          fun handler => callsInHandlers [handler] := by
    intro type htype
    have hclose : ∀ id : Option String, (do return .mk type id (← block rules) :
        Rule Handler).Keeps known fun handler => callsInHandlers [handler] := by
      intro id
      refine .bind (block_keeps hrules) fun body hbody => .pure ?_
      simp only [callsInHandlers, starts_append, starts_nil, and_true]
      exact ⟨starts_callsInOption.mpr htype, hbody⟩
    refine .after (.check _) fun _ => ?_
    split
    · exact .after asName_passes.maybe.passes fun id => hclose id
    · exact .pureBind (hclose none)
  have htype : (do
      let type ← if ← nextIs (.symbol ":") then pure none else some <$> expression rules
      check (!isStarred || type.isSome)
      let id ← if type.isSome then maybe (do keyword "as"; name) else pure none
      return .mk type id (← block rules) : Rule Handler).Keeps known
        fun handler => callsInHandlers [handler] :=
    .ifNext _ (.pureBind (hrest none forall_mem_none))
      (.bind (expression_keeps hrules).given fun type htype => hrest type htype)
  refine .after (.keyword "except") fun _ => ?_
  split
  · exact .after (.symbol "*") fun _ => htype
  · exact htype

theorem handlers_keeps : (handlers rules).Keeps known callsInHandlers := by
  have hall : (handlers rules).Yields known fun handlers =>
      ∀ handler ∈ handlers, Starts known (callsInHandlers [handler]) :=
    .orElse (handler_keeps hrules true).many1 (handler_keeps hrules false).many
  exact hall.mono fun _ => starts_callsInHandlers

/-- The calls of a `try` statement and its handlers start at known tokens. -/
theorem tryBlock_keeps : (tryBlock rules).Keeps known Stmt.calls := by
  have hclose : ∀ (body : List Stmt) (handlers : List Handler) (orElse : List Stmt),
      Starts known (callsInStatements body) → Starts known (callsInHandlers handlers) →
        Starts known (callsInStatements orElse) →
          (do
            let final ← if ← takeKeyword "finally" then some <$> block rules else pure none
            check (!handlers.isEmpty || final.isSome)
            return .tryBlock body handlers orElse (final.getD []) : Rule Stmt).Keeps known
              Stmt.calls := by
    intro body handlers orElse hbody hhandlers hothers
    have hcalls : ∀ final, Starts known (callsInStatements final) →
        Starts known (Stmt.tryBlock body handlers orElse final).calls := by
      intro final hfinal
      simp only [Stmt.calls, starts_append]
      exact ⟨⟨⟨hbody, hhandlers⟩, hothers⟩, hfinal⟩
    refine .ifKeyword "finally" (.bind (block_keeps hrules).given fun final hfinal =>
      .after (.check _) fun _ => .pure (hcalls _ ?_))
      (.pureBind (.after (.check _) fun _ => .pure (hcalls [] starts_nil)))
    cases final with
    | none => exact starts_nil
    | some final => exact hfinal final rfl
  refine .after (.keyword "try") fun _ => .bind (block_keeps hrules) fun body hbody =>
    .bind (handlers_keeps hrules) fun handlers hhandlers => ?_
  dsimp only
  split
  · exact .pureBind (hclose body handlers [] hbody hhandlers starts_nil)
  · exact .bind (elseBlock_keeps hrules) fun orElse hothers =>
      hclose body handlers orElse hbody hhandlers hothers

theorem matchSubject_keeps : (matchSubject rules).Keeps known Expr.calls :=
  .bind (starNamed_keeps hrules) fun _ hfirst => .ifSymbol ","
    (.bind (moreElements_keeps hrules) fun _ hothers =>
      .pure (starts_append.mpr ⟨hfirst, hothers⟩))
    (.after (.check _) fun _ => .pure hfirst)

theorem caseClause_keeps : (caseClause rules).Keeps known fun clause => callsInCases [clause] := by
  have hclose : ∀ (pattern : Pattern) (guard : Option Expr), Starts known pattern.calls →
      (∀ expr ∈ guard, Starts known expr.calls) →
        (do return .mk pattern guard (← block rules) : Rule Case).Keeps known
          fun clause => callsInCases [clause] := by
    intro pattern guard hpattern hguard
    refine .bind (block_keeps hrules) fun body hbody => .pure ?_
    simp only [callsInCases, starts_append, starts_nil, and_true]
    exact ⟨⟨hpattern, starts_callsInOption.mpr hguard⟩, hbody⟩
  exact .after (.keyword "case") fun _ => .bind (casePattern_keeps hrules) fun _ hpattern =>
    .ifKeyword "if" (.bind (namedExpression_keeps hrules).given fun _ hguard =>
      hclose _ _ hpattern hguard) (.pureBind (hclose _ _ hpattern forall_mem_none))

theorem matchBlock_keeps : (matchBlock rules).Keeps known Stmt.calls :=
  .after (.keyword "match") fun _ => .bind (matchSubject_keeps hrules) fun _ hsubject =>
    .after (.symbol ":") fun _ => .after (.kind _) fun _ => .after (.kind _) fun _ =>
    .bind (caseClause_keeps hrules).many1 fun _ hcases => .after (.kind _) fun _ =>
    .pure (starts_append.mpr ⟨hsubject, starts_callsInCases hcases⟩)

theorem decorator_keeps : (decorator rules).Keeps known fun decorator => decorator.expr.calls := by
  refine .after (.symbol "@") fun _ => .getThen fun tokens =>
    .bind (namedExpression_keeps hrules) fun expr hexpr => .after (.kind _) fun _ => ?_
  split
  · exact .pure hexpr
  · exact .failure

/-- The calls of a function, those of its decorators included, start at known tokens. -/
theorem function_keeps (start : NodeStart) {decorators : List Decorator}
    (hdecorators : ∀ decorator ∈ decorators, Starts known decorator.expr.calls) :
    (function rules start decorators).Keeps known Stmt.calls := by
  have hclose : ∀ (id : String) (params : Params) (result : Option Expr),
      Starts known params.calls → (∀ expr ∈ result, Starts known expr.calls) →
        (do return .function start id params decorators result (← block rules) :
          Rule Stmt).Keeps known Stmt.calls := by
    intro id params result hparams hresult
    refine .bind (block_keeps hrules) fun body hbody => .pure ?_
    simp only [Stmt.calls, starts_append]
    exact ⟨⟨⟨starts_flatMap.mpr hdecorators, hparams⟩, starts_callsInOption.mpr hresult⟩, hbody⟩
  exact .after (.keyword "def") fun _ => .after .name fun _ =>
    .after (typeParams_keeps hrules).discard fun _ => .after (.symbol "(") fun _ =>
    .bind (params_keeps hrules true) fun _ hparams => .after (.symbol ")") fun _ =>
    .ifSymbol "->" (.bind (expression_keeps hrules).given fun _ hresult =>
      hclose _ _ _ hparams hresult) (.pureBind (hclose _ _ _ hparams forall_mem_none))

theorem classDefinition_keeps {decorators : List Decorator}
    (hdecorators : ∀ decorator ∈ decorators, Starts known decorator.expr.calls) :
    (classDefinition rules decorators).Keeps known Stmt.calls := by
  have hclose : ∀ (id : String) (arguments : List Expr × List Keyword),
      Starts known (argumentCalls arguments) →
        (do return .classDef (.mk id arguments.1 arguments.2 decorators (← block rules)) :
          Rule Stmt).Keeps known Stmt.calls := by
    intro id arguments harguments
    rw [argumentCalls, starts_append] at harguments
    refine .bind (block_keeps hrules) fun body hbody => .pure ?_
    simp only [Stmt.calls, starts_append]
    exact ⟨⟨⟨starts_flatMap.mpr hdecorators, harguments.1⟩, harguments.2⟩, hbody⟩
  exact .after (.keyword "class") fun _ => .after .name fun _ =>
    .after (typeParams_keeps hrules).discard fun _ => .ifSymbol "("
      (.bind (argumentList_keeps hrules) fun arguments harguments =>
        hclose _ arguments harguments)
      (.pureBind (hclose _ ([], []) starts_nil))

theorem definition_keeps : (definition rules).Keeps known Stmt.calls :=
  .bind (decorator_keeps hrules).many fun _ hdecorators => .after .here fun start =>
    .ifNext _ (classDefinition_keeps hrules hdecorators)
      (.after (Passes.takeKeyword "async").discard fun _ =>
        function_keeps hrules start hdecorators)

theorem asyncStatement_keeps : (asyncStatement rules).Keeps known Stmt.calls :=
  .orElse (definition_keeps hrules) (.after (.keyword "async") fun _ =>
    .orElse (forLoop_keeps hrules) (withBlock_keeps hrules))

/-- The calls of a compound statement start at known tokens. -/
theorem compoundStatement_keeps : (compoundStatement rules).Keeps known Stmt.calls := by
  refine .peekThen fun token => ?_
  split
  · exact branching_keeps hrules
  · exact whileLoop_keeps hrules
  · exact forLoop_keeps hrules
  · exact withBlock_keeps hrules
  · exact tryBlock_keeps hrules
  · exact definition_keeps hrules
  · exact definition_keeps hrules
  · exact definition_keeps hrules
  · exact asyncStatement_keeps hrules
  · exact matchBlock_keeps hrules
  · exact .failure

theorem statement_keeps : (statement rules).Keeps known callsInStatements := by
  refine .orElse (.bind (compoundStatement_keeps hrules) fun statement hstatement => .pure ?_)
    (simpleStatements_keeps hrules)
  exact starts_append.mpr ⟨hstatement, starts_nil⟩

theorem statements_keeps : (statements rules).Keeps known callsInStatements := by
  refine .bind (statement_keeps hrules).many fun blocks hblocks => .pure ?_
  rw [starts_callsInStatements]
  intro statement hstatement
  obtain ⟨block, hblock, hmem⟩ := List.mem_flatten.mp hstatement
  exact starts_callsInStatements.mp (hblocks block hblock) statement hmem

end Entry

end Rule

/-! ### The rules tied together -/

/-- At every depth of the grammar the calls start at known tokens. -/
theorem Rules.keep_upTo (hfields : FieldsKnown known) (fuel : Nat) :
    (Rules.upTo fuel).Keep known := by
  induction fuel with
  | zero =>
      exact ⟨hfields, .failure, .failure, .failure, .failure, .failure, .failure, .failure,
        .failure, .failure, .failure⟩
  | succ fuel ih =>
      exact {
        fields := hfields
        expression := Rule.expression_keeps ih
        namedExpression := Rule.namedExpression_keeps ih
        starExpressions := Rule.starExpressions_keeps ih
        disjunction := Rule.disjunction_keeps ih
        inversion := Rule.inversion_keeps ih
        bitwiseOr := Rule.bitwiseOr_keeps ih
        factor := Rule.factor_keeps ih
        primary := Rule.primary_keeps ih
        pattern := Rule.pattern_keeps ih
        statements := Rule.statements_keeps ih }

/-- The calls of a program start at the tokens that it has been read from, or at tokens in
the fields of formatted texts among them. -/
theorem starts_moduleOfTokens (hfields : FieldsKnown known) {depth : Nat} {tokens : List Token}
    {module : Module} (hknown : AllKnown known tokens)
    (hread : moduleOfTokens? depth tokens = some module) : Starts known (Module.calls module) := by
  simp only [moduleOfTokens?, Option.bind_eq_bind, Option.bind_eq_some_iff, Prod.exists] at hread
  obtain ⟨statements, rest, hstatements, hread⟩ := hread
  split at hread
  · cases hread
    intro start hstart
    rw [Module.calls, List.mem_mergeSort] at hstart
    exact ((Rules.keep_upTo hfields depth).statements hknown hstatements).1 start hstart
  · cases hread

end RouteScribe.Source
