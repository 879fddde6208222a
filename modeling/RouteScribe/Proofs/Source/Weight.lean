import Mathlib
import RouteScribe.Source.Grammar.Expression

/-!
# The weight of tokens

A token weighs no more than the characters it is made of: a text weighs two more than
its inside, any other token of the code weighs one, and a token of the layout weighs
nothing.  The tokens of a text therefore weigh no more than the text, apart from
the line end that is added to it, and what a rule of the grammar reads can be paid for
with the tokens that it takes.
-/

namespace RouteScribe.Source

open RouteScribe.Text

def TokenKind.weight : TokenKind → Nat
  | .string written => written.body.length + 2
  | .number (.str text _) => text.length + 2
  | .name _ | .number _ | .uncovered | .symbol _ => 1
  | .newline | .indent | .dedent | .finish => 0

/-- What weighs something is code. -/
theorem Token.isCode_of_weight {token : Token} (hweight : 1 ≤ token.kind.weight) :
    token.isCode := by
  unfold Token.isCode
  cases hkind : token.kind <;> simp_all [TokenKind.weight]

def weigh (tokens : List Token) : Nat :=
  (tokens.map (·.kind.weight)).sum

@[simp]
theorem weigh_nil : weigh [] = 0 := rfl

@[simp]
theorem weigh_cons (token : Token) (tokens : List Token) :
    weigh (token :: tokens) = token.kind.weight + weigh tokens := by
  simp [weigh]

@[simp]
theorem weigh_reverse (tokens : List Token) : weigh tokens.reverse = weigh tokens := by
  simp [weigh]

/-! ### The tokens of a text -/

@[simp]
theorem Reading.rest_advance (count : Nat) (reading : Reading) :
    (reading.advance count).rest = reading.rest.drop count := by
  fun_induction Reading.advance count reading with
  | case1 => rfl
  | case2 count reading hrest => simp [hrest]
  | case3 count reading rest hrest ih => simp [hrest, ih]
  | case4 count reading c rest _ hrest ih => simp [hrest, ih]

/-- The tokens that have been read weigh no more than the characters that they were
read from, so this sum never grows. -/
def LexState.load (state : LexState) : Nat :=
  weigh state.tokens + state.reading.rest.length

theorem LexState.load_addMark (state : LexState) {kind : TokenKind} (hkind : kind.weight = 0) :
    (state.addMark kind).load = state.load := by
  simp [load, addMark, hkind]

theorem LexState.load_skip_le (state : LexState) (count : Nat) :
    (state.skip count).load ≤ state.load := by
  simp [load, skip]

theorem LexState.load_addToken_le (state : LexState) {kind : TokenKind} {length : Nat}
    (htaken : kind.weight ≤ length) (hrest : kind.weight ≤ state.reading.rest.length) :
    (state.addToken kind length).load ≤ state.load := by
  simp only [load, addToken, weigh_cons, Reading.rest_advance, List.length_drop]
  omega

theorem load_closeBlocks {width : Indentation} {blocks : List Indentation}
    {state after : LexState} (hclose : closeBlocks width blocks state = some after) :
    after.load = state.load := by
  induction blocks generalizing state with
  | nil => cases hclose
  | cons block blocks ih =>
      simp only [closeBlocks] at hclose
      split at hclose
      · rw [ih hclose]
        exact state.load_addMark rfl
      · split at hclose
        · cases hclose
          rfl
        · cases hclose

theorem load_indentLine {state after : LexState} {width : Indentation}
    (hindent : indentLine state width = some after) : after.load = state.load := by
  unfold indentLine at hindent
  split at hindent
  · cases hindent
  · split at hindent
    · split at hindent
      · cases hindent
        rfl
      · cases hindent
    · split at hindent
      · split at hindent
        · cases hindent
        · cases hindent
          exact state.load_addMark rfl
      · exact load_closeBlocks hindent

theorem load_startLine_le {state after : LexState} (hstart : startLine state = some after) :
    after.load ≤ state.load := by
  simp only [startLine, Option.bind_eq_bind, Option.bind_eq_some_iff, Prod.exists] at hstart
  obtain ⟨width, taken, -, hstart⟩ := hstart
  have hskip := state.load_skip_le taken
  split at hstart
  · cases hstart
    exact hskip
  · cases hstart
    exact hskip
  · cases hstart
    exact hskip
  · split at hstart
    · rw [load_indentLine hstart]
      exact hskip
    · cases hstart
      exact hskip

/-- The inside of a literal leaves room for its closing quotes. -/
theorem length_untilQuotes {quotes : List Char} {isLong : Bool} {text body : List Char}
    (huntil : untilQuotes quotes isLong text = some body) :
    body.length + quotes.length ≤ text.length := by
  fun_induction untilQuotes quotes isLong text generalizing body with
  | case1 => cases huntil
  | case2 c rest ih =>
      obtain ⟨more, hmore, rfl⟩ := Option.map_eq_some_iff.mp huntil
      have hrest := ih hmore
      simp only [List.length_cons]
      omega
  | case3 c rest _ hprefix =>
      cases huntil
      simpa using (List.isPrefixOf_iff_prefix.mp hprefix).length_le
  | case4 => cases huntil
  | case5 c rest _ _ _ ih =>
      obtain ⟨more, hmore, rfl⟩ := Option.map_eq_some_iff.mp huntil
      have hrest := ih hmore
      simp only [List.length_cons]
      omega

/-- The inside of a literal leaves room for its quotes on both sides. -/
theorem length_quotedPart {text body : List Char} {quotes : Nat}
    (hquoted : quotedPart? text = some (body, quotes)) :
    1 ≤ quotes ∧ body.length + 2 * quotes ≤ text.length := by
  unfold quotedPart? at hquoted
  split at hquoted
  · split at hquoted
    · obtain ⟨inside, huntil, heq⟩ := Option.map_eq_some_iff.mp hquoted
      cases heq
      have hlength := length_untilQuotes huntil
      simp only [List.length_cons, List.length_nil] at hlength ⊢
      omega
    · obtain ⟨inside, huntil, heq⟩ := Option.map_eq_some_iff.mp hquoted
      cases heq
      have hlength := length_untilQuotes huntil
      simp only [List.length_cons, List.length_nil] at hlength ⊢
      omega
  · obtain ⟨inside, huntil, heq⟩ := Option.map_eq_some_iff.mp hquoted
    cases heq
    have hlength := length_untilQuotes huntil
    simp only [List.length_cons, List.length_nil] at hlength ⊢
    omega
  · cases hquoted

theorem load_readSymbol_le {state after : LexState} (hread : readSymbol state = some after) :
    after.load ≤ state.load := by
  simp only [readSymbol, Option.bind_eq_bind, Option.bind_eq_some_iff] at hread
  obtain ⟨symbol, hfind, hread⟩ := hread
  have hprefix : symbol.toList.isPrefixOf state.reading.rest := by
    simpa using List.find?_some hfind
  have hnonempty : 1 ≤ symbol.length := by
    have hall : ∀ symbol ∈ symbols, 1 ≤ symbol.length := by decide
    exact hall symbol (List.mem_of_find?_eq_some hfind)
  have hlength : symbol.length ≤ state.reading.rest.length := by
    rw [← String.length_toList]
    exact (List.isPrefixOf_iff_prefix.mp hprefix).length_le
  split at hread
  · cases hread
  · cases hread
    exact state.load_addToken_le hnonempty (hnonempty.trans hlength)

theorem load_readWord_le {state after : LexState} (hread : readWord state = some after) :
    after.load ≤ state.load := by
  have hword := (List.takeWhile_prefix (l := state.reading.rest) continuesName).length_le
  simp only [readWord] at hread
  split at hread
  · rename_i marks _
    simp only [Option.bind_eq_bind, Option.bind_eq_some_iff, Prod.exists] at hread
    obtain ⟨body, quotes, hquoted, hread⟩ := hread
    cases hread
    obtain ⟨hquotes, hbody⟩ := length_quotedPart hquoted
    rw [List.length_drop] at hbody
    split
    · refine state.load_addToken_le ?_ ?_
      · simp only [TokenKind.weight]
        omega
      · simp only [TokenKind.weight]
        omega
    · refine state.load_addToken_le ?_ ?_
      · simp only [TokenKind.weight]
        omega
      · simp only [TokenKind.weight]
        omega
  · split at hread
    · rename_i hname
      cases hread
      have hnonempty : 1 ≤ (state.reading.rest.takeWhile continuesName).length := by
        cases hword : state.reading.rest.takeWhile continuesName with
        | nil => simp [hword, isName] at hname
        | cons c rest => simp
      exact state.load_addToken_le hnonempty (hnonempty.trans hword)
    · cases hread

/-- The run starts with a digit or it takes nothing. -/
theorem one_le_of_digitRun {isDigit : Char → Bool} {mayBreak : Bool} {c : Char}
    {rest digits : List Char} {taken : Nat} (hdigit : isDigit c) (hc : c ≠ '_')
    (hrun : digitRun isDigit mayBreak (c :: rest) = some (digits, taken)) : 1 ≤ taken := by
  unfold digitRun at hrun
  split at hrun
  · rename_i heq
    cases heq
  · rename_i heq
    cases heq
    exact absurd rfl hc
  · rename_i heq
    cases heq
    rw [if_pos hdigit] at hrun
    obtain ⟨⟨more, count⟩, -, heq⟩ := Option.map_eq_some_iff.mp hrun
    cases heq
    exact Nat.le_add_left 1 count

theorem weight_wholeToken (n : Nat) : (wholeToken n).weight = 1 := by
  unfold wholeToken
  split
  · rfl
  · rfl

theorem weight_decimalNumber {c : Char} {rest : List Char} {kind : TokenKind} {taken : Nat}
    (hstart : c.isDigit ∨ c = '.')
    (hnumber : decimalNumber? (c :: rest) = some (kind, taken)) :
    kind.weight = 1 ∧ 1 ≤ taken := by
  simp only [decimalNumber?, Option.bind_eq_bind, Option.bind_eq_some_iff, Prod.exists] at hnumber
  obtain ⟨whole, wholeTaken, hwhole, fraction, fractionTaken, hfraction, exponent,
    exponentTaken, -, hnumber⟩ := hnumber
  have hfirst : 1 ≤ wholeTaken + fractionTaken := by
    rcases hstart with hdigit | rfl
    · have hc : c ≠ '_' := by
        rintro rfl
        exact absurd hdigit (by decide)
      have := one_le_of_digitRun hdigit hc hwhole
      omega
    · cases wholeTaken with
      | succ count => omega
      | zero =>
          simp only [List.drop_zero, fraction?, Option.bind_eq_bind, Option.bind_eq_some_iff,
            Prod.exists] at hfraction
          obtain ⟨digits, count, -, heq⟩ := hfraction
          cases heq
          omega
  have hsum : 1 ≤ wholeTaken + fractionTaken + exponentTaken := by omega
  split_ifs at hnumber <;> cases hnumber
  · exact ⟨rfl, by omega⟩
  · exact ⟨rfl, by omega⟩
  · exact ⟨weight_wholeToken _, by omega⟩

/-- A number weighs one and takes at least one character. -/
theorem weight_readNumber {c : Char} {rest : List Char} {kind : TokenKind} {taken : Nat}
    (hstart : c.isDigit ∨ c = '.') (hnumber : readNumber? (c :: rest) = some (kind, taken)) :
    kind.weight = 1 ∧ 1 ≤ taken := by
  have hbased : ∀ base text, basedNumber? base text = some (kind, taken) →
      kind.weight = 1 ∧ 1 ≤ taken := by
    intro base text hbased
    simp only [basedNumber?, Option.bind_eq_bind, Option.bind_eq_some_iff, Prod.exists] at hbased
    obtain ⟨digits, count, -, hbased⟩ := hbased
    split at hbased
    · cases hbased
    · cases hbased
      exact ⟨weight_wholeToken _, Nat.le_add_left 1 _⟩
  unfold readNumber? at hnumber
  split at hnumber
  · rename_i mark more heq
    cases heq
    split at hnumber
    · exact hbased _ _ hnumber
    · split at hnumber
      · exact hbased _ _ hnumber
      · split at hnumber
        · exact hbased _ _ hnumber
        · exact weight_decimalNumber hstart hnumber
  · exact weight_decimalNumber hstart hnumber

/-- No step of the lexer adds to the load. -/
theorem load_readNext_le {state after : LexState} (hread : readNext state = some after) :
    after.load ≤ state.load := by
  unfold readNext at hread
  split at hread
  · cases hread
    rfl
  · cases hread
    exact state.load_skip_le _
  · cases hread
    split
    · exact state.load_skip_le 1
    · calc
        ((state.addMark .newline).skip 1).load
            ≤ (state.addMark .newline).load := (state.addMark .newline).load_skip_le 1
        _ = state.load := state.load_addMark rfl
  · split at hread
    · split at hread
      · cases hread
      · cases hread
        exact state.load_skip_le 2
    · cases hread
  · rename_i c rest _ _ _ hrest
    split at hread
    · cases hread
      exact state.load_skip_le 1
    · split at hread
      · rename_i hstart
        simp only [Option.bind_eq_bind, Option.bind_eq_some_iff, Prod.exists] at hread
        obtain ⟨value, taken, hnumber, hread⟩ := hread
        cases hread
        have hfirst : c.isDigit ∨ c = '.' := by
          simp only [Bool.or_eq_true, Bool.and_eq_true, decide_eq_true_eq] at hstart
          exact hstart.imp_right And.left
        rw [hrest] at hnumber
        obtain ⟨hweight, htaken⟩ := weight_readNumber hfirst hnumber
        refine state.load_addToken_le ?_ ?_
        · rwa [hweight]
        · simp [hweight, hrest]
      · split at hread
        · exact load_readWord_le hread
        · exact load_readSymbol_le hread

/-- A whole reading does not add to the load. -/
theorem load_readAll_le {fuel : Nat} {state after : LexState}
    (hread : readAll fuel state = some after) : after.load ≤ state.load := by
  induction fuel generalizing state with
  | zero => cases hread
  | succ fuel ih =>
      simp only [readAll] at hread
      split at hread
      · obtain ⟨next, hnext, hread⟩ := Option.bind_eq_some_iff.mp hread
        exact (ih hread).trans (load_startLine_le hnext)
      · split at hread
        · cases hread
          rfl
        · obtain ⟨next, hnext, hread⟩ := Option.bind_eq_some_iff.mp hread
          exact (ih hread).trans (load_readNext_le hnext)

theorem weigh_finishText (state : LexState) :
    weigh (finishText state).tokens = weigh state.tokens := by
  have hclosed : ∀ (blocks : List Indentation) (state : LexState),
      weigh (blocks.foldl (fun state _ => state.addMark .dedent) state).tokens =
        weigh state.tokens := by
    intro blocks
    induction blocks with
    | nil => exact fun _ => rfl
    | cons block blocks ih =>
        intro state
        rw [List.foldl_cons, ih]
        simp [LexState.addMark, TokenKind.weight]
  simp only [finishText, weigh_reverse]
  rw [LexState.addMark, weigh_cons, hclosed]
  simp [TokenKind.weight]

theorem length_normalizeNewlines_le (text : List Char) :
    (normalizeNewlines text).length ≤ text.length := by
  fun_induction normalizeNewlines text with
  | case1 => exact le_rfl
  | case2 rest ih =>
      simp only [List.length_cons]
      omega
  | case3 c rest _ ih =>
      simp only [List.length_cons]
      omega

/-- The tokens and comments of a text are those of a reading from its start. -/
theorem exists_readAll_of_lex {text : List Char} {lexed : Lexed}
    (hlex : lex? text = some lexed) :
    ∃ fuel state, readAll fuel (.start (.ofText text)) = some state ∧
      finishText state = lexed := by
  unfold lex? at hlex
  split at hlex
  · cases hlex
  · exact ⟨_, Option.map_eq_some_iff.mp hlex⟩

/-- The tokens of a text weigh no more than the text and the line end that may be added
to it. -/
theorem weigh_lex_le {text : List Char} {lexed : Lexed} (hlex : lex? text = some lexed) :
    weigh lexed.tokens ≤ text.length + 1 := by
  obtain ⟨fuel, state, hread, rfl⟩ := exists_readAll_of_lex hlex
  have hload := load_readAll_le hread
  have hended : ∀ text : List Char, (endLastLine text).length ≤ text.length + 1 := by
    intro text
    unfold endLastLine
    split
    · exact Nat.le_succ _
    · simp
  calc
    weigh (finishText state).tokens = weigh state.tokens := weigh_finishText state
    _ ≤ state.load := Nat.le_add_right _ _
    _ ≤ (LexState.start (.ofText text)).load := hload
    _ = (endLastLine (normalizeNewlines text)).length := by
      simp [LexState.load, LexState.start, Reading.ofText]
    _ ≤ (normalizeNewlines text).length + 1 := hended _
    _ ≤ text.length + 1 := Nat.add_le_add_right (length_normalizeNewlines_le text) 1

end RouteScribe.Source
