import RouteScribe.Proofs.Source.Yield
import RouteScribe.Source.Calls
import RouteScribe.Source.Grammar.Expression

/-!
# Where the calls of an expression start

A call starts where the operand starts that it follows, which is at a token.  Every rule for
expressions therefore yields calls that start at tokens it was given, or at tokens that are
read in a field of a formatted text among them.
-/

namespace RouteScribe.Source

variable {known : Token → Prop}

attribute [local simp] Expr.calls callsInAll callsInOption callsInKeywords callsInLinks
  callsInEntries callsInClauses callsInParamList callsInParam? callsInParts callsInFormat

/-- Where a node starts that begins with a token. -/
def Token.node (token : Token) : NodeStart :=
  ⟨token.start.line, token.byte⟩

/-- Nodes that start at known tokens. -/
def Starts (known : Token → Prop) (starts : List NodeStart) : Prop :=
  ∀ start ∈ starts, ∃ token, known token ∧ token.node = start

section

variable {start : NodeStart} {starts others : List NodeStart}

@[simp]
theorem starts_nil : Starts known [] :=
  List.forall_mem_nil _

@[simp]
theorem starts_cons :
    Starts known (start :: starts) ↔
      (∃ token, known token ∧ token.node = start) ∧ Starts known starts :=
  List.forall_mem_cons

@[simp]
theorem starts_append :
    Starts known (starts ++ others) ↔ Starts known starts ∧ Starts known others :=
  List.forall_mem_append

theorem starts_flatMap {α : Type} {calls : α → List NodeStart} {nodes : List α} :
    Starts known (nodes.flatMap calls) ↔ ∀ node ∈ nodes, Starts known (calls node) := by
  simp only [Starts, List.mem_flatMap]
  constructor
  · exact fun hall node hnode start hstart => hall start ⟨node, hnode, hstart⟩
  · rintro hall start ⟨node, hnode, hstart⟩
    exact hall node hnode start hstart

end

/-! ### Lists of nodes -/

@[simp]
theorem starts_callsInAll {exprs : List Expr} :
    Starts known (callsInAll exprs) ↔ ∀ expr ∈ exprs, Starts known expr.calls := by
  induction exprs with
  | nil => simp
  | cons expr exprs ih => simp [ih]

@[simp]
theorem starts_callsInOption {found : Option Expr} :
    Starts known (callsInOption found) ↔ ∀ expr ∈ found, Starts known expr.calls := by
  cases found with
  | none => simp
  | some expr => simp

@[simp]
theorem starts_callsInKeywords {keywords : List Keyword} :
    Starts known (callsInKeywords keywords) ↔
      ∀ keyword ∈ keywords, Starts known keyword.value.calls := by
  induction keywords with
  | nil => simp
  | cons keyword keywords ih =>
      cases keyword
      simp [ih, Keyword.value]

theorem starts_callsInLinks {links : List CompareLink}
    (hlinks : ∀ link ∈ links, Starts known (callsInLinks [link])) :
    Starts known (callsInLinks links) := by
  induction links with
  | nil => simp
  | cons link links ih =>
      rw [List.forall_mem_cons] at hlinks
      cases link
      simpa [ih hlinks.2] using hlinks.1

theorem starts_callsInEntries {entries : List DictEntry}
    (hentries : ∀ entry ∈ entries, Starts known (callsInEntries [entry])) :
    Starts known (callsInEntries entries) := by
  induction entries with
  | nil => simp
  | cons entry entries ih =>
      rw [List.forall_mem_cons] at hentries
      cases entry with
      | pair key value => simpa [ih hentries.2] using hentries.1
      | unpack value => simpa [ih hentries.2] using hentries.1

theorem starts_callsInClauses {clauses : List Clause}
    (hclauses : ∀ clause ∈ clauses, Starts known (callsInClauses [clause])) :
    Starts known (callsInClauses clauses) := by
  induction clauses with
  | nil => simp
  | cons clause clauses ih =>
      rw [List.forall_mem_cons] at hclauses
      cases clause
      simpa [ih hclauses.2] using hclauses.1

@[simp]
theorem starts_callsInParamList {params : List Param} :
    Starts known (callsInParamList params) ↔ ∀ param ∈ params, Starts known param.calls := by
  induction params with
  | nil => simp
  | cons param params ih => simp [ih]

@[simp]
theorem starts_callsInParam? {found : Option Param} :
    Starts known (callsInParam? found) ↔ ∀ param ∈ found, Starts known param.calls := by
  cases found with
  | none => simp
  | some param => simp

def ParamItem.calls : ParamItem → List NodeStart
  | .plain param | .star param | .doubleStar param => param.calls
  | .slash | .bareStar => []

/-! ### Formatted texts -/

@[simp]
theorem callsInParts_append (parts others : List TextPart) :
    callsInParts (parts ++ others) = callsInParts parts ++ callsInParts others := by
  induction parts with
  | nil => simp
  | cons part parts ih =>
      cases part with
      | text content => simpa using ih
      | field value conversion format => simp [ih]

/-- Joining texts loses no calls. -/
@[simp]
theorem callsInParts_joinTexts (parts : List TextPart) :
    callsInParts (joinTexts parts) = callsInParts parts := by
  induction parts with
  | nil => rfl
  | cons part parts ih =>
      cases part with
      | field value conversion format => simp [joinTexts, ih]
      | text content =>
          rw [callsInParts, ← ih, joinTexts]
          split
          · rename_i hjoined
            rw [hjoined]
            simp
          · split
            · rfl
            · simp

/-- The tokens that are read in the fields of known formatted texts are known. -/
def FieldsKnown (known : Token → Prop) : Prop :=
  ∀ token, known token → ∀ placed, token.placedString? = some placed →
    ∀ pieces, placed.pieces? = some pieces → ∀ reading ∈ readingsOfPieces pieces,
      ∀ lexed, lexFrom? reading = some lexed → AllKnown known lexed.tokens

namespace Rule

/-- The calls in what a rule yields start at known tokens. -/
abbrev Keeps {α : Type} (rule : Rule α) (known : Token → Prop) (calls : α → List NodeStart) :
    Prop :=
  rule.Yields known fun value => Starts known (calls value)

end Rule

/-- The calls in what the entry points of the grammar yield start at known tokens, among
which are those in the fields of formatted texts. -/
structure Rules.Keep (rules : Rules) (known : Token → Prop) : Prop where
  fields : FieldsKnown known
  expression : rules.expression.Keeps known Expr.calls
  namedExpression : rules.namedExpression.Keeps known Expr.calls
  starExpressions : rules.starExpressions.Keeps known Expr.calls
  disjunction : rules.disjunction.Keeps known Expr.calls
  inversion : rules.inversion.Keeps known Expr.calls
  bitwiseOr : rules.bitwiseOr.Keeps known Expr.calls
  factor : rules.factor.Keeps known Expr.calls
  primary : rules.primary.Keeps known Expr.calls
  pattern : rules.pattern.Keeps known Pattern.calls
  statements : rules.statements.Keeps known callsInStatements

section Fields

variable {rules : Rules} {isRaw : Bool}

/-- What is read can be lexed into known tokens only. -/
def Reading.IsKnown (known : Token → Prop) (reading : Reading) : Prop :=
  ∀ lexed, lexFrom? reading = some lexed → AllKnown known lexed.tokens

theorem starts_fieldValue (hrules : rules.Keep known) {reading : Reading} {expr : Expr}
    (hknown : reading.IsKnown known) (hvalue : fieldValue? rules reading = some expr) :
    Starts known expr.calls := by
  simp only [fieldValue?, Option.bind_eq_bind, Option.bind_eq_some_iff, Prod.exists] at hvalue
  obtain ⟨lexed, hlexed, found, rest, hread, hvalue⟩ := hvalue
  split at hvalue
  · cases hvalue
    exact (hrules.starExpressions (hknown lexed hlexed) hread).1
  · cases hvalue

mutual

/-- The calls in a piece of a formatted text start at tokens of its fields. -/
theorem FormatPiece.starts_parts (hrules : rules.Keep known) (piece : FormatPiece)
    (hknown : ∀ reading ∈ piece.readings, reading.IsKnown known) {parts : List TextPart}
    (hparts : piece.parts? rules isRaw = some parts) : Starts known (callsInParts parts) := by
  cases piece with
  | text chars =>
      simp only [FormatPiece.parts?, Option.bind_eq_bind, Option.bind_eq_some_iff] at hparts
      obtain ⟨content, -, heq⟩ := hparts
      cases heq
      simp
  | field value shown conversion format =>
      simp only [FormatPiece.parts?, Option.bind_eq_bind, Option.bind_eq_some_iff] at hparts
      obtain ⟨expr, hexpr, written, hwritten, heq⟩ := hparts
      cases heq
      rw [FormatPiece.readings, List.forall_mem_cons] at hknown
      have hvalue := starts_fieldValue hrules hknown.1 hexpr
      have hformat := starts_partsOfFormat hrules format hknown.2 hwritten
      simp [hvalue, hformat]

theorem starts_partsOfPieces (hrules : rules.Keep known) (pieces : List FormatPiece)
    (hknown : ∀ reading ∈ readingsOfPieces pieces, reading.IsKnown known)
    {parts : List TextPart} (hparts : partsOfPieces? rules isRaw pieces = some parts) :
    Starts known (callsInParts parts) := by
  cases pieces with
  | nil =>
      cases hparts
      simp
  | cons piece pieces =>
      simp only [partsOfPieces?, Option.bind_eq_bind, Option.bind_eq_some_iff] at hparts
      obtain ⟨first, hfirst, others, hothers, heq⟩ := hparts
      cases heq
      rw [readingsOfPieces, List.forall_mem_append] at hknown
      rw [callsInParts_append, starts_append]
      exact ⟨piece.starts_parts hrules hknown.1 hfirst,
        starts_partsOfPieces hrules pieces hknown.2 hothers⟩

theorem starts_partsOfFormat (hrules : rules.Keep known) (format : Option (List FormatPiece))
    (hknown : ∀ reading ∈ readingsOfFormat format, reading.IsKnown known)
    {written : Option (List TextPart)}
    (hparts : partsOfFormat? rules isRaw format = some written) :
    Starts known (callsInFormat written) := by
  cases format with
  | none =>
      cases hparts
      simp
  | some pieces =>
      simp only [partsOfFormat?, Option.bind_eq_bind, Option.bind_eq_some_iff] at hparts
      obtain ⟨parts, hparts, heq⟩ := hparts
      cases heq
      rw [callsInFormat, callsInParts_joinTexts]
      exact starts_partsOfPieces hrules pieces hknown hparts

end

/-- A string literal that stands at a known token. -/
def PlacedString.IsKnown (known : Token → Prop) (placed : PlacedString) : Prop :=
  ∃ token, known token ∧ token.placedString? = some placed

theorem starts_mapM_parts (hrules : rules.Keep known)
    {strings : List PlacedString} (hknown : ∀ placed ∈ strings, placed.IsKnown known)
    {parts : List (List TextPart)} (hparts : strings.mapM (·.parts? rules) = some parts) :
    Starts known (callsInParts parts.flatten) := by
  induction strings generalizing parts with
  | nil =>
      cases hparts
      simp
  | cons placed strings ih =>
      simp only [List.mapM_cons, Option.bind_eq_bind, Option.bind_eq_some_iff] at hparts
      obtain ⟨first, hfirst, others, hothers, heq⟩ := hparts
      cases heq
      rw [List.forall_mem_cons] at hknown
      obtain ⟨⟨token, htoken, hplaced⟩, hstrings⟩ := hknown
      simp only [PlacedString.parts?, Option.bind_eq_bind, Option.bind_eq_some_iff] at hfirst
      obtain ⟨pieces, hpieces, hfirst⟩ := hfirst
      rw [List.flatten_cons, callsInParts_append, starts_append]
      exact ⟨starts_partsOfPieces hrules pieces (hrules.fields token htoken placed hplaced
        pieces hpieces) hfirst, ih hstrings hothers⟩

/-- The calls in joined literals start at tokens of their fields. -/
theorem starts_joinStrings (hrules : rules.Keep known)
    {strings : List PlacedString} (hknown : ∀ placed ∈ strings, placed.IsKnown known)
    {expr : Expr} (hjoin : joinStrings? rules strings = some expr) : Starts known expr.calls := by
  simp only [joinStrings?] at hjoin
  split at hjoin
  · obtain ⟨contents, -, heq⟩ := Option.bind_eq_some_iff.mp hjoin
    cases heq
    simp
  · split at hjoin
    · cases hjoin
    · split at hjoin
      · obtain ⟨parts, hparts, heq⟩ := Option.bind_eq_some_iff.mp hjoin
        cases heq
        rw [Expr.calls, callsInParts_joinTexts]
        exact starts_mapM_parts hrules hknown hparts
      · obtain ⟨contents, -, heq⟩ := Option.bind_eq_some_iff.mp hjoin
        cases heq
        simp

end Fields

/-! ### The rules of the grammar -/

namespace Rule

theorem skipToken_passes : skipToken.Passes known := by
  intro tokens hknown found rest hread
  cases tokens with
  | nil => cases hread
  | cons token tokens =>
      cases hread
      exact ⟨trivial, hknown.tail⟩

theorem placedString_yields : placedString.Yields known (·.IsKnown known) := by
  intro tokens hknown found rest hread
  cases tokens with
  | nil => cases hread
  | cons token tokens =>
      obtain ⟨placed, hplaced, heq⟩ := Option.map_eq_some_iff.mp hread
      cases heq
      refine ⟨⟨token, hknown token List.mem_cons_self ?_, hplaced⟩, hknown.tail⟩
      unfold Token.placedString? at hplaced
      split at hplaced
      · rename_i hkind
        simp [Token.isCode, hkind]
      · cases hplaced

theorem startsClause_passes : startsClause.Passes known := by
  refine .ifNext _ (.pure trivial) (.getThen fun tokens => ?_)
  match tokens with
  | [] | [_] => exact .pure trivial
  | _ :: _ :: _ => exact .pure trivial

theorem startsNamed_passes : startsNamed.Passes known := by
  refine .getThen fun tokens => ?_
  match tokens with
  | [] | [_] => exact .pure trivial
  | first :: _ :: _ =>
      dsimp only
      split
      · exact .pure trivial
      · exact .pure trivial

theorem startsKeyword_passes : startsKeyword.Passes known := by
  refine .getThen fun tokens => ?_
  match tokens with
  | [] | [_] => exact .pure trivial
  | first :: _ :: _ =>
      dsimp only
      split
      · exact .pure trivial
      · exact .pure trivial

/-- An atom starts with code. -/
theorem isCode_of_atom {rules : Rules} {token : Token} {tokens rest : List Token} {expr : Expr}
    (hread : atom rules (token :: tokens) = some (expr, rest)) : token.isCode = true := by
  obtain ⟨kind, start, stop, byte⟩ := token
  cases kind with
  | newline | indent | dedent | finish => cases hread
  | _ => rfl

def Argument.calls : Argument → List NodeStart
  | .positional value | .unpacked value | .keyword _ value | .mapping value => value.calls

def argumentCalls (arguments : List Expr × List Keyword) : List NodeStart :=
  callsInAll arguments.1 ++ callsInKeywords arguments.2

section Entry

variable {rules : Rules} (hrules : rules.Keep known)
include hrules

theorem strings_keeps : (strings rules).Keeps known Expr.calls := by
  refine .bind placedString_yields.many1 fun pieces hpieces => ?_
  split
  · rename_i expr hexpr
    exact .pure (starts_joinStrings hrules hpieces hexpr)
  · exact .failure

theorem starNamed_keeps : (starNamed rules).Keeps known Expr.calls :=
  .ifSymbol "*" (.bind hrules.bitwiseOr fun _ hvalue => .pure hvalue)
    hrules.namedExpression

theorem starExpression_keeps : (starExpression rules).Keeps known Expr.calls :=
  .ifSymbol "*" (.bind hrules.bitwiseOr fun _ hvalue => .pure hvalue)
    hrules.expression

theorem starTarget_keeps : (starTarget rules).Keeps known Expr.calls := by
  refine .after (.takeSymbol "*") fun isStarred => .bind hrules.primary fun target htarget =>
    .after (.check _) fun _ => .pure ?_
  split <;> exact htarget

theorem starTargets_keeps : (starTargets rules).Keeps known Expr.calls := by
  refine .bind (starTarget_keeps hrules).commaList fun ⟨targets, trailing⟩ htargets => ?_
  dsimp only at htargets ⊢
  split
  · exact .pure (htargets _ List.mem_cons_self)
  · exact .pure (starts_callsInAll.mpr htargets)

theorem clause_keeps : (clause rules).Keeps known fun clause => callsInClauses [clause] :=
  .after (.takeKeyword "async") fun _ => .after (.keyword "for") fun _ =>
    .bind (starTargets_keeps hrules) fun _ htarget => .after (.keyword "in") fun _ =>
    .bind hrules.disjunction fun _ hsource =>
    .bind (.many (.after (.keyword "if") fun _ => hrules.disjunction)) fun _ hconditions =>
    .pure (by simpa [htarget, hsource] using hconditions)

theorem clauses_keeps : (clauses rules).Keeps known callsInClauses :=
  (clause_keeps hrules).many1.mono fun _ => starts_callsInClauses

theorem yieldExpression_keeps : (yieldExpression rules).Keeps known Expr.calls :=
  .after (.keyword "yield") fun _ => .ifKeyword "from"
    (.bind hrules.expression fun _ hvalue => .pure hvalue)
    (.bind hrules.starExpressions.maybe fun _ hvalue => .pure (starts_callsInOption.mpr hvalue))

theorem moreElements_keeps : (moreElements rules).Keeps known callsInAll := by
  refine .bind (starNamed_keeps hrules).commaList.maybe fun elements helements => ?_
  match elements with
  | some (elements, _) => exact .pure (starts_callsInAll.mpr (helements _ rfl))
  | none => exact .pure starts_nil

theorem parenthesized_keeps : (parenthesized rules).Keeps known Expr.calls := by
  refine .after (.symbol "(") fun _ => .ifSymbol ")" (.pure starts_nil) (.ifNext _ ?_ ?_)
  · exact .bind (yieldExpression_keeps hrules) fun _ hvalue => .after (.symbol ")") fun _ =>
      .pure hvalue
  · refine .bind (starNamed_keeps hrules) fun first hfirst => .choose startsClause_passes ?_
      (.ifSymbol "," ?_ ?_)
    · exact .after (.check _) fun _ => .bind (clauses_keeps hrules) fun _ hclauses =>
        .after (.symbol ")") fun _ => .pure (by simp [hfirst, hclauses])
    · exact .bind (moreElements_keeps hrules) fun _ hothers => .after (.symbol ")") fun _ =>
        .pure (starts_append.mpr ⟨hfirst, hothers⟩)
    · exact .after (.check _) fun _ => .after (.symbol ")") fun _ => .pure hfirst

theorem listDisplay_keeps : (listDisplay rules).Keeps known Expr.calls := by
  refine .after (.symbol "[") fun _ => .ifSymbol "]" (.pure starts_nil)
    (.bind (starNamed_keeps hrules) fun first hfirst => .choose startsClause_passes ?_ ?_)
  · exact .after (.check _) fun _ => .bind (clauses_keeps hrules) fun _ hclauses =>
      .after (.symbol "]") fun _ => .pure (by simp [hfirst, hclauses])
  · refine .ifSymbol "," (.bind (moreElements_keeps hrules) fun others hothers => ?_)
      (.pureBind ?_)
    · exact .after (.symbol "]") fun _ => .pure (starts_append.mpr ⟨hfirst, hothers⟩)
    · exact .after (.symbol "]") fun _ => .pure (starts_append.mpr ⟨hfirst, starts_nil⟩)

theorem dictEntry_keeps : (dictEntry rules).Keeps known fun entry => callsInEntries [entry] :=
  .ifSymbol "**"
    (.bind hrules.bitwiseOr fun _ hvalue => .pure (by simpa using hvalue))
    (.bind hrules.expression fun _ hkey => .after (.symbol ":") fun _ =>
      .bind hrules.expression fun _ hvalue => .pure (by simp [hkey, hvalue]))

theorem moreEntries_keeps {first : DictEntry} (hfirst : Starts known (callsInEntries [first])) :
    (moreEntries rules first).Keeps known Expr.calls := by
  have hclose : ∀ others : List DictEntry,
      (∀ entry ∈ others, Starts known (callsInEntries [entry])) →
        (do symbol "\x7d"; return Expr.dict (first :: others) : Rule Expr).Keeps known
          Expr.calls := by
    intro others hothers
    exact .after (.symbol _) fun _ =>
      .pure (starts_callsInEntries (List.forall_mem_cons.mpr ⟨hfirst, hothers⟩))
  refine .ifSymbol "," (.bind (dictEntry_keeps hrules).commaList.maybe fun entries hentries => ?_)
    (.pureBind (hclose [] (List.forall_mem_nil _)))
  match entries with
  | some (entries, _) => exact .pureBind (hclose entries (hentries _ rfl))
  | none => exact .pureBind (hclose [] (List.forall_mem_nil _))

theorem setFrom_keeps {first : Expr} (hfirst : Starts known first.calls) :
    (setFrom rules first).Keeps known Expr.calls := by
  refine .choose startsClause_passes ?_ (.ifSymbol "," ?_ (.pureBind ?_))
  · exact .after (.check _) fun _ => .bind (clauses_keeps hrules) fun _ hclauses =>
      .after (.symbol _) fun _ => .pure (by simp [hfirst, hclauses])
  · exact .bind (moreElements_keeps hrules) fun _ hothers => .after (.symbol _) fun _ =>
      .pure (starts_append.mpr ⟨hfirst, hothers⟩)
  · exact .after (.symbol _) fun _ => .pure (starts_append.mpr ⟨hfirst, starts_nil⟩)

theorem braceDisplay_keeps : (braceDisplay rules).Keeps known Expr.calls := by
  refine .after (.symbol _) fun _ => .ifSymbol _ (.pure starts_nil) (.ifSymbol "**" ?_ ?_)
  · exact .bind hrules.bitwiseOr fun _ hvalue =>
      moreEntries_keeps hrules (by simpa using hvalue)
  · refine .after (.nextIs _) fun isStarred => .after startsNamed_passes fun isNamed => ?_
    split
    · exact .bind (starNamed_keeps hrules) fun _ hfirst => setFrom_keeps hrules hfirst
    · refine .bind hrules.expression fun first hfirst => .ifSymbol ":" ?_
        (setFrom_keeps hrules hfirst)
      refine .bind hrules.expression fun value hvalue => .choose startsClause_passes ?_
        (moreEntries_keeps hrules (by simp [hfirst, hvalue]))
      exact .bind (clauses_keeps hrules) fun _ hclauses => .after (.symbol _) fun _ =>
        .pure (by simp [hfirst, hvalue, hclauses])

/-- The calls of an atom start at known tokens. -/
theorem atom_keeps : (atom rules).Keeps known Expr.calls := by
  refine .peekThen fun token => ?_
  have hskip : ∀ value : Literal,
      (do skipToken; return .literal value : Rule Expr).Keeps known Expr.calls :=
    fun value => .after skipToken_passes fun _ => .pure starts_nil
  split
  · split
    · exact hskip _
    · exact .after .name fun _ => .pure starts_nil
  · exact hskip _
  · exact strings_keeps hrules
  · exact parenthesized_keeps hrules
  · exact listDisplay_keeps hrules
  · exact braceDisplay_keeps hrules
  · exact hskip _
  · exact .failure

theorem argument_keeps : (argument rules).Keeps known Argument.calls :=
  .ifSymbol "**" (.bind hrules.expression fun _ hvalue => .pure hvalue)
    (.ifSymbol "*" (.bind hrules.expression fun _ hvalue => .pure hvalue)
      (.choose startsKeyword_passes
        (.after .name fun _ => .after (.symbol "=") fun _ =>
          .bind hrules.expression fun _ hvalue => .pure hvalue)
        (.bind hrules.namedExpression fun _ hvalue => .pure hvalue)))

omit hrules in
theorem starts_argumentCalls {all : List Argument} (hall : ∀ item ∈ all, Starts known item.calls) :
    Starts known (argumentCalls (positionalValues all, keywordValues all)) := by
  induction all with
  | nil => exact starts_nil
  | cons item all ih =>
      rw [List.forall_mem_cons] at hall
      have hrest := ih hall.2
      have hitem := hall.1
      rw [argumentCalls, starts_append] at hrest ⊢
      cases item with
      | positional value => exact ⟨starts_append.mpr ⟨hitem, hrest.1⟩, hrest.2⟩
      | unpacked value => exact ⟨starts_append.mpr ⟨hitem, hrest.1⟩, hrest.2⟩
      | keyword id value => exact ⟨hrest.1, starts_append.mpr ⟨hitem, hrest.2⟩⟩
      | mapping value => exact ⟨hrest.1, starts_append.mpr ⟨hitem, hrest.2⟩⟩

theorem moreArguments_keeps {first : Argument} (hfirst : Starts known first.calls) :
    (moreArguments rules first).Keeps known argumentCalls := by
  have hclose : ∀ others : List Argument, (∀ item ∈ others, Starts known item.calls) →
      (do
        symbol ")"
        check (inOrder false false (first :: others))
        return (positionalValues (first :: others), keywordValues (first :: others)) :
          Rule (List Expr × List Keyword)).Keeps known argumentCalls := by
    intro others hothers
    exact .after (.symbol ")") fun _ => .after (.check _) fun _ =>
      .pure (starts_argumentCalls (List.forall_mem_cons.mpr ⟨hfirst, hothers⟩))
  refine .ifSymbol "," (.bind (argument_keeps hrules).commaList.maybe fun entries hentries => ?_)
    (.pureBind (hclose [] (List.forall_mem_nil _)))
  match entries with
  | some (entries, _) => exact .pureBind (hclose entries (hentries _ rfl))
  | none => exact .pureBind (hclose [] (List.forall_mem_nil _))

/-- The calls among arguments start at known tokens. -/
theorem argumentList_keeps : (argumentList rules).Keeps known argumentCalls :=
  .ifSymbol ")" (.pure starts_nil) (.bind (argument_keeps hrules) fun _ hfirst =>
    moreArguments_keeps hrules hfirst)

theorem arguments_keeps : (arguments rules).Keeps known argumentCalls := by
  refine .ifSymbol ")" (.pure starts_nil) (.bind (argument_keeps hrules) fun first hfirst => ?_)
  dsimp only
  refine .choose startsClause_passes ?_ (moreArguments_keeps hrules hfirst)
  split
  · exact .bind (clauses_keeps hrules) fun _ hclauses => .after (.symbol ")") fun _ =>
      .pure (by
        simpa [argumentCalls] using ⟨hfirst, hclauses⟩)
  · exact .failure

theorem sliceTail_keeps {lower : Option Expr} (hlower : Starts known (callsInOption lower)) :
    (sliceItem.sliceTail rules lower).Keeps known Expr.calls := by
  refine .after (.symbol ":") fun _ => .bind hrules.expression.maybe fun upper hupper =>
    .ifSymbol ":" (.bind hrules.expression.maybe fun step hstep => .pure ?_) (.pureBind (.pure ?_))
  · simp only [Expr.calls, starts_append, starts_callsInOption] at hlower ⊢
    exact ⟨⟨hlower, hupper⟩, hstep⟩
  · simp only [Expr.calls, starts_append, starts_callsInOption] at hlower ⊢
    exact ⟨⟨hlower, hupper⟩, forall_mem_none⟩

theorem sliceFrom_keeps : (sliceItem.sliceFrom rules).Keeps known Expr.calls := by
  refine .after startsNamed_passes fun isNamed => ?_
  refine .bind hrules.namedExpression fun value hvalue => ?_
  refine .after (.nextIs _) fun isColon => ?_
  split
  · exact sliceTail_keeps hrules hvalue
  · exact .pure hvalue

theorem sliceItem_keeps : (sliceItem rules).Keeps known Expr.calls :=
  .ifNext _ (.pureBind (sliceTail_keeps hrules starts_nil)) (sliceFrom_keeps hrules)

theorem starSlice_keeps : (starSlice rules).Keeps known Expr.calls :=
  .ifSymbol "*" (.bind hrules.expression fun _ hvalue => .pure hvalue)
    (sliceItem_keeps hrules)

theorem slices_keeps : (slices rules).Keeps known Expr.calls := by
  refine .bind (starSlice_keeps hrules).commaList fun ⟨items, trailing⟩ hitems => ?_
  dsimp only at hitems ⊢
  split
  · refine .pure ?_
    split
    · exact starts_callsInAll.mpr hitems
    · exact hitems _ List.mem_cons_self
  · exact .pure (starts_callsInAll.mpr hitems)

theorem trailer_keeps {start : NodeStart} (hstart : ∃ token, known token ∧ token.node = start)
    {operand : Expr} (hoperand : Starts known operand.calls) :
    (trailer rules start operand).Keeps known Expr.calls := by
  refine .ifSymbol "." (.after .name fun _ => .pure hoperand) (.ifSymbol "(" ?_ ?_)
  · refine .bind (arguments_keeps hrules) fun ⟨args, keywords⟩ harguments => .pure ?_
    simp only [argumentCalls, starts_append] at harguments
    simp only [Expr.calls, starts_append, starts_cons]
    exact ⟨⟨⟨hstart, hoperand⟩, harguments.1⟩, harguments.2⟩
  · exact .after (.symbol "[") fun _ => .bind (slices_keeps hrules) fun _ hindex =>
      .after (.symbol "]") fun _ => .pure (starts_append.mpr ⟨hoperand, hindex⟩)

/-- A call starts at the token at which its operand has been read. -/
theorem primary_keeps : (primary rules).Keeps known Expr.calls := by
  intro tokens hknown value rest hread
  cases tokens with
  | nil => cases hread
  | cons token tokens =>
      have hread : (do extend (trailer rules token.node) (← atom rules) : Rule Expr)
          (token :: tokens) = some (value, rest) := hread
      obtain ⟨⟨operand, middle⟩, hatom, -⟩ := Option.bind_eq_some_iff.mp hread
      have hstart : ∃ other, known other ∧ other.node = token.node :=
        ⟨token, hknown token List.mem_cons_self (isCode_of_atom hatom), rfl⟩
      have hkeeps : (do extend (trailer rules token.node) (← atom rules) : Rule Expr).Keeps known
          Expr.calls :=
        .bind (atom_keeps hrules) fun _ hoperand =>
          .extend (fun _ hnode => trailer_keeps hrules hstart hnode) hoperand
      exact hkeeps hknown hread

theorem awaited_keeps : (awaited rules).Keeps known Expr.calls :=
  .ifKeyword "await" (.bind (primary_keeps hrules) fun _ hvalue => .pure hvalue)
    (primary_keeps hrules)

theorem power_keeps : (power rules).Keeps known Expr.calls :=
  .bind (awaited_keeps hrules) fun _ hbase => .ifSymbol "**"
    (.bind hrules.factor fun _ hexponent => .pure (starts_append.mpr ⟨hbase, hexponent⟩))
    (.pure hbase)

theorem factor_keeps : (factor rules).Keeps known Expr.calls := by
  have hsigned : ∀ op : UnaryOp,
      (do return Expr.unary op (← rules.factor) : Rule Expr).Keeps known Expr.calls :=
    fun op => .bind hrules.factor fun _ hoperand => .pure hoperand
  exact .ifSymbol "+" (hsigned _) (.ifSymbol "-" (hsigned _) (.ifSymbol "~" (hsigned _)
    (power_keeps hrules)))

omit hrules in
theorem operator_passes (ops : List BinaryOp) : (operator ops).Passes known := by
  refine Yields.firstOf fun rule hrule => ?_
  obtain ⟨op, -, rfl⟩ := List.mem_map.mp hrule
  exact .after (.symbol _) fun _ => .pure trivial

omit hrules in
theorem leftGrouped_keeps (ops : List BinaryOp) {operand : Rule Expr}
    (hoperand : operand.Keeps known Expr.calls) :
    (leftGrouped ops operand).Keeps known Expr.calls := by
  refine .bind hoperand fun first hfirst => .extend (fun left hleft => ?_) hfirst
  exact .after (operator_passes ops) fun _ => .bind hoperand fun _ hright =>
    .pure (starts_append.mpr ⟨hleft, hright⟩)

theorem bitwiseOr_keeps : (bitwiseOr rules).Keeps known Expr.calls :=
  leftGrouped_keeps _ (leftGrouped_keeps _ (leftGrouped_keeps _ (leftGrouped_keeps _
    (leftGrouped_keeps _ (leftGrouped_keeps _ (factor_keeps hrules))))))

omit hrules in
theorem compareOp_passes : compareOp.Passes known := by
  refine .ifKeyword "not" (.after (.keyword "in") fun _ => .pure trivial)
    (.ifKeyword "is" (.after (.takeKeyword "not") fun _ => .pure trivial)
      (.ifKeyword "in" (.pure trivial) (.firstOf fun rule hrule => ?_)))
  obtain ⟨op, -, rfl⟩ := List.mem_map.mp hrule
  exact .after (.symbol _) fun _ => .pure trivial

theorem comparison_keeps : (comparison rules).Keeps known Expr.calls := by
  have hlink : (do return CompareLink.mk (← compareOp) (← bitwiseOr rules) :
      Rule CompareLink).Keeps known fun link => callsInLinks [link] :=
    .after compareOp_passes fun _ => .bind (bitwiseOr_keeps hrules) fun _ hright =>
      .pure (by simpa using hright)
  refine .bind (bitwiseOr_keeps hrules) fun left hleft =>
    .bind hlink.many fun links hlinks => .pure ?_
  split
  · exact hleft
  · exact starts_append.mpr ⟨hleft, starts_callsInLinks hlinks⟩

theorem inversion_keeps : (inversion rules).Keeps known Expr.calls :=
  .ifKeyword "not" (.bind hrules.inversion fun _ hvalue => .pure hvalue) (comparison_keeps hrules)

omit hrules in
theorem booleanLevel_keeps (op : BoolOp) {operand : Rule Expr}
    (hoperand : operand.Keeps known Expr.calls) :
    (booleanLevel op operand).Keeps known Expr.calls := by
  refine .bind hoperand fun first hfirst =>
    .bind (.many (.after (.keyword _) fun _ => hoperand)) fun others hothers => .pure ?_
  split
  · exact hfirst
  · exact starts_callsInAll.mpr (List.forall_mem_cons.mpr ⟨hfirst, hothers⟩)

theorem disjunction_keeps : (disjunction rules).Keeps known Expr.calls :=
  booleanLevel_keeps _ (booleanLevel_keeps _ (inversion_keeps hrules))

theorem hint_keeps (isAnnotated : Bool) : (hint rules isAnnotated).Keeps known callsInOption := by
  unfold hint
  split
  · exact (Yields.maybe (.after (.symbol ":") fun _ => hrules.expression)).mono
      fun _ => starts_callsInOption.mpr
  · exact .pure starts_nil

theorem starHint_keeps (isAnnotated : Bool) :
    (starHint rules isAnnotated).Keeps known callsInOption := by
  unfold starHint
  split
  · have htype : (do
        symbol ":"
        if ← takeSymbol "*" then return .starred (← rules.bitwiseOr) else rules.expression :
          Rule Expr).Keeps known Expr.calls :=
      .after (.symbol ":") fun _ => .ifSymbol "*"
        (.bind hrules.bitwiseOr fun _ hvalue => .pure hvalue) hrules.expression
    exact htype.maybe.mono fun _ => starts_callsInOption.mpr
  · exact .pure starts_nil

theorem paramItem_keeps (isAnnotated : Bool) :
    (paramItem rules isAnnotated).Keeps known ParamItem.calls := by
  refine .ifSymbol "/" (.pure starts_nil) (.ifSymbol "**" ?_ (.ifSymbol "*" ?_ ?_))
  · exact .after .name fun _ => .bind (hint_keeps hrules _) fun _ htype =>
      .pure (starts_append.mpr ⟨htype, starts_nil⟩)
  · refine .after Passes.name.maybe.passes fun id => ?_
    match id with
    | some id =>
        exact .bind (starHint_keeps hrules _) fun _ htype =>
          .pure (starts_append.mpr ⟨htype, starts_nil⟩)
    | none => exact .pure starts_nil
  · exact .after .name fun _ => .bind (hint_keeps hrules _) fun _ htype =>
      .bind (.maybe (.after (.symbol "=") fun _ => hrules.expression)) fun _ hdefault =>
      .pure (starts_append.mpr ⟨htype, starts_callsInOption.mpr hdefault⟩)

omit hrules in
theorem starts_keywordItems {needsKeyword : Bool} {items : List ParamItem} {params : List Param}
    {others : Option Param} (hitems : ∀ item ∈ items, Starts known item.calls)
    (hsort : keywordItems needsKeyword items = some (params, others)) :
    Starts known (callsInParamList params) ∧ Starts known (callsInParam? others) := by
  fun_induction keywordItems needsKeyword items generalizing params with
  | case1 => cases hsort
  | case2 =>
      cases hsort
      exact ⟨starts_nil, starts_nil⟩
  | case3 needsKeyword param items ih =>
      obtain ⟨⟨rest, last⟩, hrest, heq⟩ := Option.map_eq_some_iff.mp hsort
      cases heq
      rw [List.forall_mem_cons] at hitems
      obtain ⟨hparams, hothers⟩ := ih hitems.2 hrest
      exact ⟨starts_append.mpr ⟨hitems.1, hparams⟩, hothers⟩
  | case4 param =>
      cases hsort
      exact ⟨starts_nil, hitems _ List.mem_cons_self⟩
  | case5 => cases hsort

omit hrules in
theorem starts_params {positionalOnly positional keywordOnly : List Param}
    {others restKeywords : Option Param}
    (honly : ∀ param ∈ positionalOnly, Starts known param.calls)
    (hpositional : ∀ param ∈ positional, Starts known param.calls)
    (hothers : ∀ param ∈ others, Starts known param.calls)
    (hkeywords : Starts known (callsInParamList keywordOnly))
    (hrest : Starts known (callsInParam? restKeywords)) :
    Starts known (Params.mk positionalOnly.reverse positional.reverse others keywordOnly
      restKeywords).calls := by
  simp only [Params.calls, starts_append, starts_callsInParamList, List.mem_reverse]
  exact ⟨⟨⟨⟨honly, hpositional⟩, starts_callsInParam?.mpr hothers⟩,
    starts_callsInParamList.mp hkeywords⟩, hrest⟩

omit hrules in
/-- Sorting parameters by their kind keeps their calls. -/
theorem starts_sortItems {positionalOnly positional : List Param} {items : List ParamItem}
    {params : Params} (honly : ∀ param ∈ positionalOnly, Starts known param.calls)
    (hpositional : ∀ param ∈ positional, Starts known param.calls)
    (hitems : ∀ item ∈ items, Starts known item.calls)
    (hsort : sortItems positionalOnly positional items = some params) :
    Starts known params.calls := by
  fun_induction sortItems positionalOnly positional items with
  | case1 positionalOnly positional =>
      cases hsort
      exact starts_params honly hpositional forall_mem_none starts_nil starts_nil
  | case2 => cases hsort
  | case3 positionalOnly positional param items _ _ ih =>
      rw [List.forall_mem_cons] at hitems
      exact ih honly (List.forall_mem_cons.mpr ⟨hitems.1, hpositional⟩) hitems.2 hsort
  | case4 => cases hsort
  | case5 positionalOnly positional items _ ih =>
      exact ih hpositional (List.forall_mem_nil _) (List.forall_mem_cons.mp hitems).2 hsort
  | case6 positionalOnly positional items =>
      obtain ⟨⟨keywords, rest⟩, hkeywords, heq⟩ := Option.bind_eq_some_iff.mp hsort
      cases heq
      obtain ⟨hparams, hrest⟩ := starts_keywordItems (List.forall_mem_cons.mp hitems).2 hkeywords
      exact starts_params honly hpositional forall_mem_none hparams hrest
  | case7 positionalOnly positional param items =>
      obtain ⟨⟨keywords, rest⟩, hkeywords, heq⟩ := Option.bind_eq_some_iff.mp hsort
      cases heq
      rw [List.forall_mem_cons] at hitems
      obtain ⟨hparams, hrest⟩ := starts_keywordItems hitems.2 hkeywords
      refine starts_params honly hpositional ?_ hparams hrest
      rintro _ ⟨⟩
      exact hitems.1
  | case8 positionalOnly positional param =>
      cases hsort
      exact starts_params honly hpositional forall_mem_none starts_nil (hitems _ List.mem_cons_self)
  | case9 => cases hsort

/-- The calls among parameters start at known tokens. -/
theorem params_keeps (isAnnotated : Bool) :
    (params rules isAnnotated).Keeps known Params.calls := by
  have hitems : (commaList (paramItem rules isAnnotated) <|> pure ([], false)).Yields known
      fun list => ∀ item ∈ list.1, Starts known item.calls :=
    .orElse (paramItem_keeps hrules isAnnotated).commaList (.pure (List.forall_mem_nil _))
  refine .bind hitems fun ⟨items, _⟩ hitems => ?_
  dsimp only at hitems ⊢
  split
  · rename_i params hsort
    exact .pure (starts_sortItems (List.forall_mem_nil _) (List.forall_mem_nil _) hitems hsort)
  · exact .failure

theorem lambda_keeps : (lambda rules).Keeps known Expr.calls :=
  .after (.keyword "lambda") fun _ => .bind (params_keeps hrules false) fun _ hparams =>
    .after (.symbol ":") fun _ => .bind hrules.expression fun _ hbody =>
    .pure (starts_append.mpr ⟨hparams, hbody⟩)

theorem expression_keeps : (expression rules).Keeps known Expr.calls := by
  refine .ifNext _ (lambda_keeps hrules) (.bind (disjunction_keeps hrules) fun body hbody =>
    .ifKeyword "if" ?_ (.pure hbody))
  exact .bind hrules.disjunction fun _ htest => .after (.keyword "else") fun _ =>
    .bind hrules.expression fun _ hother =>
    .pure (starts_append.mpr ⟨starts_append.mpr ⟨htest, hbody⟩, hother⟩)

theorem namedExpression_keeps : (namedExpression rules).Keeps known Expr.calls :=
  .choose startsNamed_passes
    (.after .name fun _ => .after (.symbol ":=") fun _ =>
      .bind hrules.expression fun _ hvalue => .pure hvalue)
    (.bind (expression_keeps hrules) fun _ hvalue => .after (.nextIs _) fun _ =>
      .after (.check _) fun _ => .pure hvalue)

theorem starExpressions_keeps : (starExpressions rules).Keeps known Expr.calls := by
  refine .bind (starExpression_keeps hrules).commaList fun ⟨values, trailing⟩ hvalues => ?_
  dsimp only at hvalues ⊢
  split
  · exact .pure (hvalues _ List.mem_cons_self)
  · exact .pure (starts_callsInAll.mpr hvalues)

end Entry

end Rule

end RouteScribe.Source
