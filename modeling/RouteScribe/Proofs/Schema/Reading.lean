import RouteScribe.Proofs.Source.Payment
import RouteScribe.Schema.Resolve

/-!
# The depth of an expression in a text

A type can be given as a text inside a type, which is read as an expression of its own.
The depth of that expression, in the steps that resolving it can take, is at most the
length of the text and one more, because each level of the expression and each
character of a text inside it is written with a character of its own.
-/

namespace RouteScribe.Source

open RouteScribe.Schema

theorem one_le_typeDepth (expr : Expr) : 1 ≤ typeDepth expr := by
  fun_cases typeDepth expr with
  | case1 => omega
  | case2 => omega
  | case3 => omega
  | case4 elements =>
      induction elements with
      | nil => exact le_rfl
      | cons element elements ih => exact ih.trans (Nat.le_max_right _ _)
  | case5 => exact le_rfl

theorem typesDepth_cons_le (expr : Expr) (exprs : List Expr) :
    typesDepth (expr :: exprs) ≤ typeDepth expr + Rule.total typeDepth exprs := by
  induction exprs generalizing expr with
  | nil =>
      have hone := one_le_typeDepth expr
      simp only [typesDepth, Rule.total_nil]
      omega
  | cons next exprs ih =>
      have hrest := ih next
      rw [typesDepth]
      simp only [Rule.total_cons]
      omega

/-! ### Texts in string literals -/

/-- Two characters come out only where a backslash stands for itself. -/
theorem length_readEscape {inText : Bool} {text chars : List Char} {taken : Nat}
    (hread : readEscape? inText text = some (chars, taken)) :
    chars.length ≤ 1 ∨ chars.length = 2 ∧ taken = 1 ∧ 1 ≤ text.length := by
  unfold readEscape? at hread
  split at hread
  · cases hread
    exact .inl le_rfl
  · rename_i c rest
    split_ifs at hread
    · cases hread
      exact .inl (Nat.zero_le 1)
    · cases hread
      exact .inl le_rfl
    · cases hread
      exact .inl le_rfl
    · obtain ⟨code, -, heq⟩ := Option.map_eq_some_iff.mp hread
      cases heq
      exact .inl le_rfl
    · simp only [Option.bind_eq_bind, Option.bind_eq_some_iff] at hread
      obtain ⟨code, -, char, -, heq⟩ := hread
      cases heq
      exact .inl le_rfl
    · simp only [Option.bind_eq_bind, Option.bind_eq_some_iff] at hread
      obtain ⟨code, -, char, -, heq⟩ := hread
      cases heq
      exact .inl le_rfl
    · split at hread
      · cases hread
        exact .inl le_rfl
      · cases hread
        exact .inr ⟨rfl, rfl, Nat.le_add_left 1 rest.length⟩

/-- Escapes only shorten a text. -/
theorem length_unescapeFrom {skip : Nat} {text chars : List Char}
    (hread : unescapeFrom true skip text = some chars) : chars.length ≤ text.length - skip := by
  fun_induction unescapeFrom true skip text generalizing chars with
  | case1 =>
      cases hread
      exact Nat.zero_le _
  | case2 skip c rest ih => simpa using ih hread
  | case3 rest ih =>
      simp only [Option.bind_eq_bind, Option.bind_eq_some_iff, Prod.exists] at hread
      obtain ⟨escaped, taken, hescape, others, hothers, heq⟩ := hread
      cases heq
      have hfirst := length_readEscape hescape
      have hrest := ih taken hothers
      simp only [List.length_append, List.length_cons]
      rcases hfirst with hfirst | ⟨hfirst, rfl, hrest⟩
      · omega
      · omega
  | case4 c rest _ ih =>
      obtain ⟨others, hothers, rfl⟩ := Option.map_eq_some_iff.mp hread
      have hrest := ih hothers
      simp only [List.length_cons]
      omega

theorem length_unescapeText {isRaw : Bool} {body chars : List Char}
    (hread : unescapeText? isRaw body = some chars) : chars.length ≤ body.length := by
  unfold unescapeText? at hread
  split at hread
  · cases hread
    exact le_rfl
  · exact length_unescapeFrom hread

/-- The contents of several literals are no longer than the literals. -/
theorem length_mapM_unescapeText {pieces : List WrittenString} {contents : List (List Char)}
    (hread : pieces.mapM (fun piece => unescapeText? piece.isRaw piece.body) = some contents) :
    contents.flatten.length ≤ (pieces.map (·.body.length)).sum := by
  induction pieces generalizing contents with
  | nil =>
      cases hread
      exact le_rfl
  | cons piece pieces ih =>
      simp only [List.mapM_cons, Option.bind_eq_bind, Option.bind_eq_some_iff] at hread
      obtain ⟨first, hfirst, others, hothers, heq⟩ := hread
      cases heq
      simp only [List.flatten_cons, List.length_append, List.map_cons, List.sum_cons]
      exact Nat.add_le_add (length_unescapeText hfirst) (ih hothers)

/-- Joined literals are no deeper than they are long. -/
theorem typeDepth_joinStrings {rules : Rules} {strings : List PlacedString} {expr : Expr}
    (hne : strings ≠ []) (hjoin : joinStrings? rules strings = some expr) :
    typeDepth expr ≤ (strings.map (·.written.body.length + 2)).sum := by
  have htwo : ((strings.map (·.written)).map (·.body.length)).sum + 2 ≤
      (strings.map (·.written.body.length + 2)).sum := by
    cases strings with
    | nil => exact absurd rfl hne
    | cons first others =>
        simp only [List.map_cons, List.sum_cons, List.sum_map_add, List.map_map, Function.comp_def]
        omega
  simp only [joinStrings?] at hjoin
  split at hjoin
  · obtain ⟨contents, -, heq⟩ := Option.bind_eq_some_iff.mp hjoin
    cases heq
    simp only [typeDepth]
    omega
  · split at hjoin
    · cases hjoin
    · split at hjoin
      · obtain ⟨parts, -, heq⟩ := Option.bind_eq_some_iff.mp hjoin
        cases heq
        simp only [typeDepth]
        omega
      · obtain ⟨contents, hcontents, heq⟩ := Option.bind_eq_some_iff.mp hjoin
        cases heq
        have hlength := length_mapM_unescapeText hcontents
        simp only [typeDepth, String.length_ofList]
        omega

/-! ### The rules of the grammar -/

/-- The entry points of the grammar pay for the depth of the expressions they yield. -/
structure Rules.Pay (rules : Rules) : Prop where
  expression : rules.expression.Pays 0 typeDepth
  namedExpression : rules.namedExpression.Pays 0 typeDepth
  starExpressions : rules.starExpressions.Pays 0 typeDepth
  disjunction : rules.disjunction.Pays 0 typeDepth
  inversion : rules.inversion.Pays 0 typeDepth
  bitwiseOr : rules.bitwiseOr.Pays 0 typeDepth
  factor : rules.factor.Pays 0 typeDepth
  primary : rules.primary.Pays 0 typeDepth

namespace Rule

/-- A literal pays for the text it may be opened to. -/
theorem placedString_pays : placedString.Pays 0 (·.written.body.length + 2) := by
  intro tokens found rest hread
  cases tokens with
  | nil => cases hread
  | cons token tokens =>
      simp only [placedString, Token.placedString?] at hread
      split at hread
      · rename_i written hkind
        cases hread
        simp [hkind, TokenKind.weight]
      · cases hread

/-- Literals in a row pay for the type they may be opened to. -/
theorem strings_pays (rules : Rules) : (strings rules).Pays 0 typeDepth := by
  intro tokens found rest hread
  obtain ⟨⟨pieces, middle⟩, hpieces, hjoin⟩ := Option.bind_eq_some_iff.mp hread
  have hpaid := placedString_pays.many1 hpieces
  have hne : pieces ≠ [] := by
    obtain ⟨⟨piece, after⟩, -, hmany⟩ := Option.bind_eq_some_iff.mp hpieces
    obtain ⟨⟨others, last⟩, -, heq⟩ := Option.bind_eq_some_iff.mp hmany
    cases heq
    exact List.cons_ne_nil _ _
  cases hexpr : joinStrings? rules pieces with
  | none =>
      simp only [hexpr] at hjoin
      cases hjoin
  | some expr =>
      simp only [hexpr] at hjoin
      cases hjoin
      have hdepth := typeDepth_joinStrings hne hexpr
      simp only [total] at hpaid
      omega

theorem startsClause_pays : startsClause.Pays 0 fun _ => 0 := by
  refine .test (.nextIs _) (.pure le_rfl) (.bind .get fun tokens => ?_)
  match tokens with
  | [] | [_] => exact .pure le_rfl
  | _ :: _ :: _ => exact .pure le_rfl

theorem startsNamed_pays : startsNamed.Pays 0 fun _ => 0 := by
  refine .bind .get fun tokens => ?_
  match tokens with
  | [] | [_] => exact .pure le_rfl
  | first :: _ :: _ =>
      dsimp only
      split
      · exact .pure le_rfl
      · exact .pure le_rfl

theorem startsKeyword_pays : startsKeyword.Pays 0 fun _ => 0 := by
  refine .bind .get fun tokens => ?_
  match tokens with
  | [] | [_] => exact .pure le_rfl
  | first :: _ :: _ =>
      dsimp only
      split
      · exact .pure le_rfl
      · exact .pure le_rfl

theorem typeDepth_keywordLiteral {text : String} {literal : Literal}
    (hliteral : keywordLiteral? text = some literal) : typeDepth (.literal literal) = 1 := by
  unfold keywordLiteral? at hliteral
  split at hliteral
  · cases hliteral
    rfl
  · cases hliteral
    rfl
  · cases hliteral
    rfl
  · cases hliteral

section Entry

variable {rules : Rules} (hrules : rules.Pay)
include hrules

theorem starNamed_pays : (starNamed rules).Pays 0 typeDepth := by
  refine .ifSymbol "*" (.bind hrules.bitwiseOr fun value => .pure ?_) hrules.namedExpression
  simp only [typeDepth]
  omega

theorem starExpression_pays : (starExpression rules).Pays 0 typeDepth := by
  refine .ifSymbol "*" (.bind hrules.bitwiseOr fun value => .pure ?_) hrules.expression
  simp only [typeDepth]
  omega

theorem starTarget_pays : (starTarget rules).Pays 0 typeDepth := by
  refine .bind (.takeSymbol "*") fun isStarred => .bind hrules.primary fun target =>
    .bind (.check _) fun _ => .pure ?_
  have hdepth := one_le_typeDepth target
  split
  · simp only [typeDepth]
    omega
  · omega

theorem starTargets_pays : (starTargets rules).Pays 0 typeDepth := by
  refine .bind ((starTarget_pays hrules).commaList typesDepth_cons_le) fun ⟨targets, trailing⟩ => ?_
  dsimp only
  split
  · refine .pure ?_
    simp only [typesDepth]
    omega
  · exact .pure (Nat.zero_add _).ge

theorem clause_pays : (clause rules).Pays 0 fun _ => 0 :=
  .bind (.takeKeyword "async") fun _ => .bind (.keyword "for") fun _ =>
    .bind (starTargets_pays hrules) fun _ => .bind (.keyword "in") fun _ =>
    .bind hrules.disjunction fun _ =>
    .bind (.many (.bind (.keyword "if") fun _ => hrules.disjunction.keep)) fun _ =>
    .pure (Nat.zero_le _)

theorem clauses_pays : (clauses rules).Pays 0 fun _ => 0 :=
  (clause_pays hrules).many1.free

theorem yieldExpression_pays : (yieldExpression rules).Pays 0 typeDepth := by
  refine .bind (.keyword "yield") fun _ => .ifKeyword "from" ?_ ?_
  · refine .bind hrules.expression fun value => .pure ?_
    simp only [typeDepth]
    omega
  · refine .bind hrules.starExpressions.maybe fun value => .pure ?_
    simp only [typeDepth]
    omega

theorem moreElements_pays : (moreElements rules).Pays 0 (total typeDepth) := by
  have hlist : (commaList (starNamed rules)).Pays 0 fun list => total typeDepth list.1 :=
    (starNamed_pays hrules).commaList fun node nodes => (total_cons typeDepth node nodes).le
  refine .bind hlist.maybe fun elements => ?_
  match elements with
  | some (elements, _) => exact .pure (Nat.zero_add _).ge
  | none => exact .pure (Nat.zero_le _)

theorem parenthesized_pays : (parenthesized rules).Pays 0 typeDepth := by
  refine .bind (.symbol "(") fun _ => .ifSymbol ")" (.pure ?_) (.test (.nextIs _) ?_ ?_)
  · exact Nat.le_add_left 1 1
  · refine .bind (yieldExpression_pays hrules) fun value => .bind (.symbol ")") fun _ => .pure ?_
    omega
  · refine .bind (starNamed_pays hrules) fun first => .test startsClause_pays ?_
      (.ifSymbol "," ?_ ?_)
    · refine .bind (.check _) fun _ => .bind (clauses_pays hrules) fun _ =>
        .bind (.symbol ")") fun _ => .pure ?_
      simp only [typeDepth]
      omega
    · refine .bind (moreElements_pays hrules) fun others => .bind (.symbol ")") fun _ => .pure ?_
      have hdepth := typesDepth_cons_le first others
      simp only [typeDepth]
      omega
    · refine .bind (.check _) fun _ => .bind (.symbol ")") fun _ => .pure ?_
      omega

theorem listDisplay_pays : (listDisplay rules).Pays 0 typeDepth := by
  refine .bind (.symbol "[") fun _ => .ifSymbol "]" (.pure ?_)
    (.bind (starNamed_pays hrules) fun first => .test startsClause_pays ?_ ?_)
  · exact Nat.le_add_left 1 1
  · refine .bind (.check _) fun _ => .bind (clauses_pays hrules) fun _ =>
      .bind (.symbol "]") fun _ => .pure ?_
    simp only [typeDepth]
    omega
  · refine .ifSymbol "," (.bind (moreElements_pays hrules) fun others => ?_)
      (.pureBind ?_)
    · refine .bind (.symbol "]") fun _ => .pure ?_
      simp only [typeDepth]
      omega
    · refine .bind (.symbol "]") fun _ => .pure ?_
      simp only [typeDepth]
      omega

theorem dictEntry_pays : (dictEntry rules).Pays 0 fun _ => 0 :=
  .ifSymbol "**" (.bind hrules.bitwiseOr fun _ => .pure (Nat.zero_le _))
    (.bind hrules.expression fun _ => .bind (.symbol ":") fun _ =>
      .bind hrules.expression fun _ => .pure (Nat.zero_le _))

theorem moreEntries_pays (first : DictEntry) : (moreEntries rules first).Pays 0 typeDepth := by
  have hclose : ∀ {credit : Nat} (others : List DictEntry),
      (do symbol "\x7d"; return Expr.dict (first :: others) : Rule Expr).Pays credit typeDepth := by
    intro credit others
    refine .bind (.symbol _) fun _ => .pure ?_
    simp only [typeDepth]
    omega
  have hlist : (commaList (dictEntry rules)).Pays 0 fun _ => 0 :=
    (dictEntry_pays hrules).freeList
  refine .ifSymbol "," (.bind hlist.maybe fun entries => ?_) (.pureBind (hclose _))
  match entries with
  | some (entries, _) => exact .pureBind (hclose _)
  | none => exact .pureBind (hclose _)

theorem setFrom_pays (first : Expr) : (setFrom rules first).Pays 0 typeDepth := by
  refine .test startsClause_pays ?_ (.ifSymbol "," ?_ (.pureBind ?_))
  · refine .bind (.check _) fun _ => .bind (clauses_pays hrules) fun _ =>
      .bind (.symbol _) fun _ => .pure ?_
    simp only [typeDepth]
    omega
  · refine .bind (moreElements_pays hrules) fun others => .bind (.symbol _) fun _ => .pure ?_
    simp only [typeDepth]
    omega
  · refine .bind (.symbol _) fun _ => .pure ?_
    simp only [typeDepth]
    omega

theorem braceDisplay_pays : (braceDisplay rules).Pays 0 typeDepth := by
  have hset : (do setFrom rules (← starNamed rules) : Rule Expr).Pays 1 typeDepth :=
    .bind (starNamed_pays hrules) fun first => (setFrom_pays hrules first).keep
  refine .bind (.symbol _) fun _ => .ifSymbol _ (.pure ?_) (.ifSymbol "**" ?_ ?_)
  · exact Nat.le_add_left 1 1
  · exact .bind hrules.bitwiseOr fun value => (moreEntries_pays hrules _).keep
  · refine .bind (.nextIs _) fun isStarred => .bind startsNamed_pays fun isNamed => ?_
    split
    · exact hset
    · refine .bind hrules.expression fun first => .ifSymbol ":" ?_ (setFrom_pays hrules first).keep
      refine .bind hrules.expression fun value => .test startsClause_pays ?_
        (moreEntries_pays hrules _).keep
      refine .bind (clauses_pays hrules) fun _ => .bind (.symbol _) fun _ => .pure ?_
      simp only [typeDepth]
      omega

/-- An atom is paid for by the token at which it starts or by the display that the token
opens. -/
theorem atom_pays : (atom rules).Pays 0 typeDepth := by
  refine .peekThen fun token tokens => ?_
  have hskip : ∀ value : Literal, typeDepth (.literal value) ≤ token.kind.weight →
      (do skipToken; return .literal value : Rule Expr).PaysAt 0 typeDepth (token :: tokens) := by
    intro value hvalue found rest hread
    cases hread
    rw [weigh_cons, Nat.zero_add]
    exact Nat.add_le_add_right hvalue _
  split
  · rename_i text hkind
    split
    · rename_i literal hliteral
      refine hskip literal ?_
      rw [hkind, typeDepth_keywordLiteral hliteral]
      exact le_rfl
    · refine Pays.on (.bind .name fun id => .pure ?_) _
      exact le_rfl
  · rename_i value hkind
    refine hskip value ?_
    rw [hkind]
    cases value with
    | _ => exact le_rfl
  · exact (strings_pays rules).on _
  · exact (parenthesized_pays hrules).on _
  · exact (listDisplay_pays hrules).on _
  · exact (braceDisplay_pays hrules).on _
  · rename_i hkind
    refine hskip .ellipsis ?_
    rw [hkind]
    exact le_rfl
  · exact Pays.failure.on _

theorem argument_pays : (argument rules).Pays 0 fun _ => 0 :=
  .ifSymbol "**" (.bind hrules.expression fun _ => .pure (Nat.zero_le _))
    (.ifSymbol "*" (.bind hrules.expression fun _ => .pure (Nat.zero_le _))
      (.test startsKeyword_pays
        (.bind .name fun _ => .bind (.symbol "=") fun _ => .bind hrules.expression fun _ =>
          .pure (Nat.zero_le _))
        (.bind hrules.namedExpression fun _ => .pure (Nat.zero_le _))))

theorem moreArguments_pays (first : Argument) : (moreArguments rules first).Pays 0 fun _ => 0 := by
  have hclose : ∀ {credit : Nat} (others : List Argument),
      (do
        symbol ")"
        check (inOrder false false (first :: others))
        return (positionalValues (first :: others), keywordValues (first :: others)) :
          Rule (List Expr × List Keyword)).Pays credit fun _ => 0 := by
    intro credit others
    exact .bind (.symbol ")") fun _ => .bind (.check _) fun _ => .pure (Nat.zero_le _)
  have hlist : (commaList (argument rules)).Pays 0 fun _ => 0 :=
    (argument_pays hrules).freeList
  refine .ifSymbol "," (.bind hlist.maybe fun entries => ?_) (.pureBind (hclose _))
  match entries with
  | some (entries, _) => exact .pureBind (hclose _)
  | none => exact .pureBind (hclose _)

theorem arguments_pays : (arguments rules).Pays 0 fun _ => 0 := by
  refine .ifSymbol ")" (.pure (Nat.zero_le _)) (.bind (argument_pays hrules) fun first => ?_)
  dsimp only
  refine .test startsClause_pays ?_ (moreArguments_pays hrules first).keep
  split
  · exact .bind (clauses_pays hrules) fun _ => .bind (.symbol ")") fun _ => .pure (Nat.zero_le _)
  · exact fun _ _ _ hread => nomatch hread

theorem sliceTail_pays (lower : Option Expr) :
    (sliceItem.sliceTail rules lower).Pays 0 typeDepth := by
  refine .bind (.symbol ":") fun _ => .bind hrules.expression.maybe fun upper =>
    .ifSymbol ":" (.bind hrules.expression.maybe fun step => .pure ?_) (.pureBind (.pure ?_))
  · simp only [typeDepth]
    omega
  · simp only [typeDepth]
    omega

theorem sliceFrom_pays : (sliceItem.sliceFrom rules).Pays 0 typeDepth := by
  refine .bind startsNamed_pays fun isNamed => .bind hrules.namedExpression fun value => ?_
  refine .bind (.nextIs _) fun isColon => ?_
  split
  · exact (sliceTail_pays hrules _).keep
  · exact .pure (Nat.le_add_left _ _)

theorem sliceItem_pays : (sliceItem rules).Pays 0 typeDepth :=
  .test (.nextIs _) (.pureBind (sliceTail_pays hrules none)) (sliceFrom_pays hrules)

theorem starSlice_pays : (starSlice rules).Pays 0 typeDepth := by
  refine .ifSymbol "*" (.bind hrules.expression fun value => .pure ?_) (sliceItem_pays hrules)
  simp only [typeDepth]
  omega

theorem slices_pays : (slices rules).Pays 0 typeDepth := by
  refine .bind ((starSlice_pays hrules).commaList typesDepth_cons_le) fun ⟨items, trailing⟩ => ?_
  dsimp only
  split
  · refine .pure ?_
    split
    · simp only [typeDepth]
      omega
    · simp only [typesDepth]
      omega
  · exact .pure (Nat.zero_add _).ge

/-- What follows an operand pays for the depth that it adds. -/
theorem trailer_pays (start : NodeStart) (operand : Expr) :
    (trailer rules start operand).Pays 0 typeDepth := by
  refine .ifSymbol "." (.bind .name fun member => .pure ?_) (.ifSymbol "(" ?_ ?_)
  · simp only [typeDepth]
    omega
  · refine .bind (arguments_pays hrules) fun ⟨args, keywords⟩ => .pure ?_
    simp only [typeDepth]
    omega
  · refine .bind (.symbol "[") fun _ => .bind (slices_pays hrules) fun index =>
      .bind (.symbol "]") fun _ => .pure ?_
    simp only [typeDepth]
    omega

theorem primary_pays : (primary rules).Pays 0 typeDepth :=
  .bind .here fun start => .bind (atom_pays hrules) fun operand => by
    rw [Nat.add_zero, Nat.zero_add]
    exact .extend (fun node => (trailer_pays hrules start node).keep) operand

theorem awaited_pays : (awaited rules).Pays 0 typeDepth := by
  refine .ifKeyword "await" (.bind (primary_pays hrules) fun value => .pure ?_)
    (primary_pays hrules)
  simp only [typeDepth]
  omega

theorem power_pays : (power rules).Pays 0 typeDepth := by
  refine .bind (awaited_pays hrules) fun base => .ifSymbol "**"
    (.bind hrules.factor fun exponent => .pure ?_) (.pure (Nat.zero_add _).ge)
  simp only [typeDepth]
  omega

theorem factor_pays : (factor rules).Pays 0 typeDepth := by
  have hsigned : ∀ op : UnaryOp,
      (do return Expr.unary op (← rules.factor) : Rule Expr).Pays 1 typeDepth := by
    intro op
    refine .bind hrules.factor fun operand => .pure ?_
    simp only [typeDepth]
    omega
  exact .ifSymbol "+" (hsigned _) (.ifSymbol "-" (hsigned _) (.ifSymbol "~" (hsigned _)
    (power_pays hrules)))

omit hrules in
theorem operator_pays (ops : List BinaryOp) : (operator ops).Pays 0 fun _ => 1 := by
  refine .firstOf fun rule hrule => ?_
  obtain ⟨op, -, rfl⟩ := List.mem_map.mp hrule
  exact .bind (.symbol _) fun _ => .pure le_rfl

omit hrules in
theorem leftGrouped_pays (ops : List BinaryOp) {operand : Rule Expr}
    (hoperand : operand.Pays 0 typeDepth) : (leftGrouped ops operand).Pays 0 typeDepth := by
  refine .bind hoperand fun first => ?_
  rw [Nat.zero_add]
  refine .extend (fun left => ?_) first
  refine .bind (operator_pays ops) fun op => .bind hoperand fun right => .pure ?_
  simp only [typeDepth]
  omega

theorem bitwiseOr_pays : (bitwiseOr rules).Pays 0 typeDepth :=
  leftGrouped_pays _ (leftGrouped_pays _ (leftGrouped_pays _ (leftGrouped_pays _
    (leftGrouped_pays _ (leftGrouped_pays _ (factor_pays hrules))))))

omit hrules in
theorem compareOp_pays : compareOp.Pays 0 fun _ => 1 := by
  refine .ifKeyword "not" (.bind (.keyword "in") fun _ => .pure (Nat.le_add_right _ _))
    (.ifKeyword "is" (.bind (.takeKeyword "not") fun _ => .pure (Nat.le_add_right _ _))
      (.ifKeyword "in" (.pure le_rfl) (.firstOf fun rule hrule => ?_)))
  obtain ⟨op, -, rfl⟩ := List.mem_map.mp hrule
  exact .bind (.symbol _) fun _ => .pure le_rfl

theorem comparison_pays : (comparison rules).Pays 0 typeDepth := by
  have hlink : (do return CompareLink.mk (← compareOp) (← bitwiseOr rules) :
      Rule CompareLink).Pays 0 fun _ => 1 :=
    .bind compareOp_pays fun _ => .bind (bitwiseOr_pays hrules) fun _ =>
      .pure (Nat.le_add_right _ _)
  refine .bind (bitwiseOr_pays hrules) fun left => .bind hlink.many fun links => .pure ?_
  have hleft := one_le_typeDepth left
  split
  · omega
  · simp only [typeDepth]
    omega

theorem inversion_pays : (inversion rules).Pays 0 typeDepth := by
  refine .ifKeyword "not" (.bind hrules.inversion fun value => .pure ?_) (comparison_pays hrules)
  simp only [typeDepth]
  omega

omit hrules in
theorem booleanLevel_pays (op : BoolOp) {operand : Rule Expr}
    (hoperand : operand.Pays 0 typeDepth) : (booleanLevel op operand).Pays 0 typeDepth := by
  refine .bind hoperand fun first =>
    .bind (.many (.bind (.keyword _) fun _ => hoperand.keep)) fun others => .pure ?_
  have hfirst := one_le_typeDepth first
  split
  · omega
  · simp only [typeDepth]
    omega

theorem disjunction_pays : (disjunction rules).Pays 0 typeDepth :=
  booleanLevel_pays _ (booleanLevel_pays _ (inversion_pays hrules))

theorem hint_pays (isAnnotated : Bool) : (hint rules isAnnotated).Pays 0 fun _ => 0 := by
  unfold hint
  split
  · exact (Pays.maybe (.bind (.symbol ":") fun _ => hrules.expression.keep)).free
  · exact .pure le_rfl

theorem starHint_pays (isAnnotated : Bool) : (starHint rules isAnnotated).Pays 0 fun _ => 0 := by
  unfold starHint
  split
  · refine (Pays.maybe (.bind (.symbol ":") fun _ => .ifSymbol "*" ?_ hrules.expression.keep)).free
    refine .bind hrules.bitwiseOr fun value => .pure ?_
    simp only [typeDepth]
    omega
  · exact .pure le_rfl

theorem paramItem_pays (isAnnotated : Bool) :
    (paramItem rules isAnnotated).Pays 0 fun _ => 0 := by
  refine .ifSymbol "/" (.pure (Nat.zero_le _)) (.ifSymbol "**" ?_ (.ifSymbol "*" ?_ ?_))
  · exact .bind .name fun _ => .bind (hint_pays hrules _) fun _ => .pure (Nat.zero_le _)
  · refine .bind Pays.name.maybe fun id => ?_
    match id with
    | some id => exact .bind (starHint_pays hrules _) fun _ => .pure (Nat.zero_le _)
    | none => exact .pure (Nat.zero_le _)
  · exact .bind .name fun _ => .bind (hint_pays hrules _) fun _ =>
      .bind (.maybe (.bind (.symbol "=") fun _ => hrules.expression.keep)) fun _ =>
      .pure (Nat.zero_le _)

theorem params_pays (isAnnotated : Bool) : (params rules isAnnotated).Pays 0 fun _ => 0 := by
  have hlist : (commaList (paramItem rules isAnnotated)).Pays 0 fun _ => 0 :=
    (paramItem_pays hrules isAnnotated).freeList
  refine .bind (.orElse hlist (.pure le_rfl)) fun ⟨items, _⟩ => ?_
  dsimp only
  split
  · exact .pure (Nat.zero_le _)
  · exact .failure

theorem lambda_pays : (lambda rules).Pays 0 typeDepth := by
  refine .bind (.keyword "lambda") fun _ => .bind (params_pays hrules false) fun _ =>
    .bind (.symbol ":") fun _ => .bind hrules.expression fun _ => .pure ?_
  simp only [typeDepth]
  omega

theorem expression_pays : (expression rules).Pays 0 typeDepth := by
  refine .test (.nextIs _) (lambda_pays hrules) (.bind (disjunction_pays hrules) fun body =>
    .ifKeyword "if" ?_ (.pure (Nat.zero_add _).ge))
  refine .bind hrules.disjunction fun test => .bind (.keyword "else") fun _ =>
    .bind hrules.expression fun other => .pure ?_
  simp only [typeDepth]
  omega

theorem namedExpression_pays : (namedExpression rules).Pays 0 typeDepth := by
  refine .test startsNamed_pays ?_ (.bind (expression_pays hrules) fun value => ?_)
  · refine .bind .name fun id => .bind (.symbol ":=") fun _ =>
      .bind hrules.expression fun value => .pure ?_
    simp only [typeDepth]
    omega
  · exact .bind (.nextIs _) fun _ => .bind (.check _) fun _ => .pure (Nat.zero_add _).ge

theorem starExpressions_pays : (starExpressions rules).Pays 0 typeDepth := by
  refine .bind ((starExpression_pays hrules).commaList typesDepth_cons_le)
    fun ⟨values, trailing⟩ => ?_
  dsimp only
  split
  · refine .pure ?_
    simp only [typesDepth]
    omega
  · exact .pure (Nat.zero_add _).ge

end Entry

end Rule

/-- At every depth of the grammar each rule pays for what it reads. -/
theorem Rules.pay_upTo (fuel : Nat) : (Rules.upTo fuel).Pay := by
  induction fuel with
  | zero =>
      exact ⟨.failure, .failure, .failure, .failure, .failure, .failure, .failure, .failure⟩
  | succ fuel ih =>
      exact {
        expression := Rule.expression_pays ih
        namedExpression := Rule.namedExpression_pays ih
        starExpressions := Rule.starExpressions_pays ih
        disjunction := Rule.disjunction_pays ih
        inversion := Rule.inversion_pays ih
        bitwiseOr := Rule.bitwiseOr_pays ih
        factor := Rule.factor_pays ih
        primary := Rule.primary_pays ih }

/-- An expression is no deeper than its text is long, apart from one step. -/
theorem typeDepth_readExpression {text : String} {expr : Expr}
    (hread : readExpression? text = some expr) : typeDepth expr ≤ text.length + 1 := by
  simp only [readExpression?, Option.bind_eq_bind, Option.bind_eq_some_iff, Prod.exists] at hread
  obtain ⟨lexed, hlexed, values, trailing, rest, hvalues, hread⟩ := hread
  have hweight : weigh lexed.tokens ≤ text.length + 1 := by
    rw [← String.length_toList]
    exact weigh_lex_le hlexed
  have hpaid := (Rules.pay_upTo _).expression.commaList typesDepth_cons_le hvalues
  have hdepth : typeDepth expr ≤ typesDepth values := by
    split at hread
    · split at hread
      · cases hread
        exact Nat.le_max_left _ _
      · cases hread
        exact le_rfl
    · cases hread
  dsimp only at hpaid
  omega

end RouteScribe.Source
