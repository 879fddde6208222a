import RouteScribe.Proofs.Source.Standing
import RouteScribe.Proofs.Source.StatementStarts
import RouteScribe.Source.File

/-!
# Where nodes start

While a text is read, its lines end at line feeds, and for the next character both its
column and its byte offset in the line are counted.  A token records both, in a field of a
formatted text too.  A node has the line and the byte offset of its first token; turned back
into a column, they are the place of this token, provided that the line that is looked up is
the one the token stands in.
-/

namespace RouteScribe.Source

open RouteScribe.Text RouteScribe.Text.Utf8

variable {text : List Char} {reading : Reading} {state after : LexState} {token : Token}
  {c : Char} {rest : List Char}

/-! ### Tokens in a text -/

/-- A token stands in a text where it has been recorded: at a character of a line, with
the column and the byte offset of this character.  So does the inside of a string literal. -/
structure Token.StandsIn (text : List Char) (token : Token) : Prop where
  place : ∃ lines front c rest, text = writeLines lines ++ front ++ c :: rest ∧
    (∀ line ∈ lines, '\n' ∉ line) ∧ '\n' ∉ front ∧ c ≠ '\n' ∧
    token.start = ⟨lines.length + 1, front.length⟩ ∧ token.byte = (encode front).length
  inside : ∀ placed, token.placedString? = some placed → placed.inside.StandsIn text

/-- A string literal is what is left to be read: its body comes after its marks and quotes,
which are counted one by one. -/
def Reading.Opens (reading : Reading) (written : WrittenString) : Prop :=
  ∃ more, reading.advance written.opening = ⟨written.body ++ more, reading.line,
    reading.column + written.opening, reading.byte + written.opening⟩

/-- A token that is recorded where a reading stands, stands there too. -/
theorem Reading.StandsIn.record (hstands : reading.StandsIn text) (hrest : reading.rest = c :: rest)
    (hc : c ≠ '\n') (hstart : token.start = reading.position) (hbyte : token.byte = reading.byte)
    (hinside : ∀ written, token.kind = .string written → reading.Opens written) :
    token.StandsIn text where
  place := by
    rcases hstands with hnone | ⟨lines, front, actual, hafter, hcount, hshown⟩
    · cases hrest.symm.trans hnone
    · rw [hrest] at hshown
      cases hshown with
      | lineEnd => exact absurd rfl hc
      | newline => exact absurd rfl hc
      | @char _ d _ actual _ hd _ _ =>
          refine ⟨lines, front, d, actual, hafter.text_eq, hafter.not_mem_lines,
            hafter.not_mem_front, hd, ?_, hbyte.trans hcount⟩
          rw [hstart, Reading.position, ← hafter.column_eq, ← hafter.line_eq]
  inside := by
    intro placed hplaced
    unfold Token.placedString? at hplaced
    split at hplaced
    · rename_i written hkind
      cases hplaced
      obtain ⟨more, hopens⟩ := hinside written hkind
      have hopened := hstands.advance written.opening
      rw [hopens] at hopened
      rw [hstart, hbyte]
      exact hopened.front rfl
    · cases hplaced

/-! ### Steps of the reading -/

namespace LexState

/-- What a step does to the reading and to the code: it passes over characters, which may
make up a token. -/
inductive Moves (state after : LexState) : Prop where
  | passes (count : Nat) (hreading : after.reading = state.reading.advance count)
      (hcode : after.code = state.code)
  | takes (count : Nat) (hreading : after.reading = state.reading.advance count)
      (token : Token) (hcode : after.code = token :: state.code)
      (hstart : token.start = state.reading.position) (hbyte : token.byte = state.reading.byte)
      (c : Char) (rest : List Char) (hrest : state.reading.rest = c :: rest) (hc : c ≠ '\n')
      (hinside : ∀ written, token.kind = .string written → state.reading.Opens written)

theorem Resembles.moves (hlike : state.Resembles after) : state.Moves after :=
  .passes 0 hlike.reading hlike.code

theorem addToken_moves {kind : TokenKind} (hweight : 1 ≤ kind.weight) (length : Nat)
    (hrest : state.reading.rest = c :: rest) (hc : c ≠ '\n')
    (hinside : ∀ written, kind = .string written → state.reading.Opens written) :
    state.Moves (state.addToken kind length) := by
  have hcode : (state.addToken kind length).code =
      ⟨kind, state.reading.position, (state.reading.advance length).position,
        state.reading.byte⟩ :: state.code :=
    List.filter_cons_of_pos (Token.isCode_of_weight hweight)
  exact .takes length rfl _ hcode rfl rfl c rest hrest hc hinside

end LexState

open LexState

/-- The start of a line passes over its indentation. -/
theorem startLine_moves (hstart : startLine state = some after) : state.Moves after := by
  simp only [startLine, Option.bind_eq_bind, Option.bind_eq_some_iff, Prod.exists] at hstart
  obtain ⟨width, taken, -, hstart⟩ := hstart
  split at hstart
  · cases hstart
    exact .passes taken rfl rfl
  · cases hstart
    exact .passes taken rfl rfl
  · cases hstart
    exact .passes taken rfl rfl
  · split at hstart
    · have hlike := indentLine_resembles hstart
      exact .passes taken hlike.reading hlike.code
    · cases hstart
      exact .passes taken rfl rfl

theorem readSymbol_moves (hrest : state.reading.rest = c :: rest) (hc : c ≠ '\n')
    (hread : readSymbol state = some after) : state.Moves after := by
  simp only [readSymbol, Option.bind_eq_bind, Option.bind_eq_some_iff] at hread
  obtain ⟨symbol, -, hread⟩ := hread
  split at hread
  · cases hread
  · cases hread
    exact .takes symbol.length rfl _ rfl rfl rfl c rest hrest hc nofun

/-! ### The marks and quotes of a string literal -/

theorem isNarrow_of_toLower (hletter : c.toLower ∈ ['u', 'r', 'b', 'f']) : IsNarrow c := by
  unfold Char.toLower at hletter
  split at hletter
  · rename_i hrange
    constructor
    · rintro rfl
      exact absurd hrange (by decide)
    · have hlast : 'Z'.val ≤ 127 := by decide
      exact Char.utf8Size_eq_one_iff.mpr (UInt32.le_trans hrange.2 hlast)
  · simp only [List.mem_cons, List.not_mem_nil, or_false] at hletter
    rcases hletter with rfl | rfl | rfl | rfl <;> exact ⟨by decide, by decide⟩

/-- The marks of a string literal are letters of one byte each. -/
theorem isNarrow_of_stringMarks {word : List Char} {marks : WrittenString}
    (hmarks : stringMarks? word = some marks) : ∀ c ∈ word, IsNarrow c := by
  suffices hletters : word.map Char.toLower ⊆ ['u', 'r', 'b', 'f'] from
    fun c hc => isNarrow_of_toLower (hletters (List.mem_map_of_mem hc))
  simp only [stringMarks?] at hmarks
  split_ifs at hmarks with hnone hu hr hb hf hbytes hformat
  · simp [hnone]
  · simp [hu]
  · simp [hr]
  · simp [hb]
  · simp [hf]
  · rcases hbytes with hmarks | hmarks <;> simp [hmarks]
  · rcases hformat with hmarks | hmarks <;> simp [hmarks]

theorem untilQuotes_prefix {quotes : List Char} {isLong : Bool} {text body : List Char}
    (huntil : untilQuotes quotes isLong text = some body) : body <+: text := by
  fun_induction untilQuotes quotes isLong text generalizing body with
  | case1 => cases huntil
  | case2 c rest ih =>
      obtain ⟨more, hmore, rfl⟩ := Option.map_eq_some_iff.mp huntil
      exact List.cons_prefix_cons.mpr ⟨rfl, List.cons_prefix_cons.mpr ⟨rfl, ih hmore⟩⟩
  | case3 =>
      cases huntil
      exact List.nil_prefix
  | case4 => cases huntil
  | case5 c rest _ _ _ ih =>
      obtain ⟨more, hmore, rfl⟩ := Option.map_eq_some_iff.mp huntil
      exact List.cons_prefix_cons.mpr ⟨rfl, ih hmore⟩

/-- The inside of a string literal comes after quotes that are all the same. -/
theorem quotedPart_spec {text body : List Char} {quotes : Nat}
    (hquoted : quotedPart? text = some (body, quotes)) :
    ∃ quote more, text.head? = some quote ∧
      text = List.replicate quotes quote ++ (body ++ more) := by
  unfold quotedPart? at hquoted
  split at hquoted
  · rename_i quote second third rest
    split at hquoted
    · rename_i hsame
      obtain ⟨inside, huntil, heq⟩ := Option.map_eq_some_iff.mp hquoted
      cases heq
      obtain ⟨rfl, rfl⟩ := hsame
      obtain ⟨more, rfl⟩ := untilQuotes_prefix huntil
      exact ⟨_, more, rfl, rfl⟩
    · obtain ⟨inside, huntil, heq⟩ := Option.map_eq_some_iff.mp hquoted
      cases heq
      obtain ⟨more, hrest⟩ := untilQuotes_prefix huntil
      exact ⟨quote, more, rfl, congrArg _ hrest.symm⟩
  · rename_i quote rest _
    obtain ⟨inside, huntil, heq⟩ := Option.map_eq_some_iff.mp hquoted
    cases heq
    obtain ⟨more, rfl⟩ := untilQuotes_prefix huntil
    exact ⟨quote, more, rfl, rfl⟩
  · cases hquoted

/-- The body of a literal begins right after its marks and its quotes. -/
theorem opens_of_word {word after : List Char} {marks : WrittenString} {body : List Char}
    {quotes : Nat} (hrest : reading.rest = word ++ after)
    (hquote : after.head?.any fun c => c = '"' ∨ c = '\'') (hmarks : stringMarks? word = some marks)
    (hquoted : quotedPart? after = some (body, quotes)) :
    reading.Opens { marks with opening := word.length + quotes, body } := by
  obtain ⟨quote, more, hhead, hafter⟩ := quotedPart_spec hquoted
  have hnarrow : ∀ c ∈ word ++ List.replicate quotes quote, IsNarrow c := by
    rw [List.forall_mem_append]
    refine ⟨isNarrow_of_stringMarks hmarks, ?_⟩
    intro c hc
    rw [List.eq_of_mem_replicate hc]
    rw [hhead] at hquote
    have hquote : quote = '"' ∨ quote = '\'' := by simpa using hquote
    rcases hquote with rfl | rfl <;> exact ⟨by decide, by decide⟩
  rw [hafter, ← List.append_assoc] at hrest
  have hopened := Reading.advance_narrow hrest hnarrow
  rw [List.length_append, List.length_replicate] at hopened
  exact ⟨more, hopened⟩

theorem readWord_moves (hrest : state.reading.rest = c :: rest) (hc : c ≠ '\n')
    (hread : readWord state = some after) : state.Moves after := by
  simp only [readWord] at hread
  split at hread
  · rename_i marks hmarks
    simp only [Option.bind_eq_bind, Option.bind_eq_some_iff, Prod.exists] at hread
    obtain ⟨body, quotes, hquoted, hread⟩ := hread
    cases hread
    have hword : state.reading.rest = state.reading.rest.takeWhile continuesName ++
        state.reading.rest.drop (state.reading.rest.takeWhile continuesName).length :=
      (List.prefix_iff_eq_append.mp (List.takeWhile_prefix continuesName)).symm
    split at hmarks
    · rename_i hquote
      have hopens := opens_of_word hword hquote hmarks hquoted
      refine addToken_moves ?_ _ hrest hc ?_
      · split
        · exact Nat.le_add_left 1 _
        · exact le_rfl
      · intro written hkind
        split at hkind
        · cases hkind
          exact hopens
        · cases hkind
    · cases hmarks
  · split at hread
    · cases hread
      exact addToken_moves le_rfl _ hrest hc nofun
    · cases hread

/-- Each step of the lexer passes over characters or takes a token. -/
theorem readNext_moves (hread : readNext state = some after) : state.Moves after := by
  unfold readNext at hread
  split at hread
  · cases hread
    exact (Resembles.refl _).moves
  · cases hread
    exact .passes _ rfl rfl
  · cases hread
    split
    · exact .passes 1 rfl rfl
    · have hmark : state.Resembles (state.addMark .newline) := .addMark state fun _ _ _ => rfl
      exact .passes 1 rfl hmark.code
  · split at hread
    · split at hread
      · cases hread
      · cases hread
        exact .passes 2 rfl rfl
    · cases hread
  · rename_i c rest _ hnewline _ hrest
    have hc : c ≠ '\n' := by
      rintro rfl
      exact hnewline rfl
    split at hread
    · cases hread
      exact .passes 1 rfl rfl
    · split at hread
      · rename_i hstart
        simp only [Option.bind_eq_bind, Option.bind_eq_some_iff, Prod.exists] at hread
        obtain ⟨kind, taken, hnumber, hread⟩ := hread
        cases hread
        have hfirst : c.isDigit ∨ c = '.' := by
          simp only [Bool.or_eq_true, Bool.and_eq_true, decide_eq_true_eq] at hstart
          exact hstart.imp_right And.left
        rw [hrest] at hnumber
        obtain ⟨hweight, -⟩ := weight_readNumber hfirst hnumber
        refine addToken_moves hweight.ge taken hrest hc ?_
        rintro written rfl
        exact absurd hweight (by simp [TokenKind.weight])
      · split at hread
        · exact readWord_moves hrest hc hread
        · exact readSymbol_moves hrest hc hread

/-! ### A whole reading -/

namespace LexState

/-- The reading of a state stands where it says, and its code where it has been recorded. -/
structure KeepsPlaces (text : List Char) (state : LexState) : Prop where
  reading : state.reading.StandsIn text
  code : ∀ token ∈ state.code, token.StandsIn text

theorem KeepsPlaces.start (hreading : reading.StandsIn text) :
    (LexState.start reading).KeepsPlaces text where
  reading := hreading
  code := List.forall_mem_nil _

/-- A step keeps the places of the code. -/
theorem KeepsPlaces.move (hkeeps : state.KeepsPlaces text) (hmoves : state.Moves after) :
    after.KeepsPlaces text := by
  cases hmoves with
  | passes count hreading hcode =>
      constructor
      · rw [hreading]
        exact hkeeps.reading.advance count
      · rw [hcode]
        exact hkeeps.code
  | takes count hreading token hcode hstart hbyte c rest hrest hc hinside =>
      constructor
      · rw [hreading]
        exact hkeeps.reading.advance count
      · rw [hcode, List.forall_mem_cons]
        exact ⟨hkeeps.reading.record hrest hc hstart hbyte hinside, hkeeps.code⟩

end LexState

/-- A whole reading keeps the places of the code. -/
theorem readAll_keepsPlaces {fuel : Nat} (hkeeps : state.KeepsPlaces text)
    (hread : readAll fuel state = some after) : after.KeepsPlaces text := by
  induction fuel generalizing state with
  | zero => cases hread
  | succ fuel ih =>
      simp only [readAll] at hread
      split at hread
      · obtain ⟨next, hnext, hread⟩ := Option.bind_eq_some_iff.mp hread
        exact ih (hkeeps.move (startLine_moves hnext)) hread
      · split at hread
        · cases hread
          exact hkeeps
        · obtain ⟨next, hnext, hread⟩ := Option.bind_eq_some_iff.mp hread
          exact ih (hkeeps.move (readNext_moves hnext)) hread

/-! ### Places in a file -/

/-- The line of a text with a number, where lines end at line feeds only, in whatever way
the end of a line is written. -/
def lineOfText (text : List Char) (line : Nat) : List Char :=
  ((splitNewlines (normalizeNewlines text))[line - 1]?).getD []

namespace SourceFile

def lineOf (file : SourceFile) (line : Nat) : List Char :=
  ((file.lines[line - 1]?).getD "").toList

/-- The tokens of a file: its code, and the code in the fields of its formatted texts. -/
inductive Holds (file : SourceFile) : Token → Prop where
  | code {token : Token} (htoken : token ∈ file.code) : Holds file token
  | field {outer token : Token} {placed : PlacedString} {pieces : List FormatPiece}
      {reading : Reading} {lexed : Lexed} (houter : Holds file outer)
      (hplaced : outer.placedString? = some placed) (hpieces : placed.pieces? = some pieces)
      (hreading : reading ∈ readingsOfPieces pieces) (hlexed : lexFrom? reading = some lexed)
      (htoken : token ∈ lexed.tokens) (hcode : token.isCode = true) : Holds file token

theorem fieldsKnown_holds (file : SourceFile) : FieldsKnown file.Holds :=
  fun _ houter _ hplaced _ hpieces _ hreading _ hlexed _ htoken hcode =>
    .field houter hplaced hpieces hreading hlexed htoken hcode

/-- Every call of a file starts at one of its tokens. -/
theorem exists_token_of_call {path : Project.Path} {text : String} {file : SourceFile}
    (hread : SourceFile.read? path text = some file) {start : NodeStart}
    (hstart : start ∈ Module.calls file.module) :
    ∃ token, file.Holds token ∧ token.node = start := by
  simp only [SourceFile.read?, Option.bind_eq_bind, Option.bind_eq_some_iff] at hread
  obtain ⟨lexed, -, module, hmodule, hread⟩ := hread
  cases hread
  refine starts_moduleOfTokens (fieldsKnown_holds _) ?_ hmodule start hstart
  intro token htoken hcode
  exact .code (List.mem_filter.mpr ⟨htoken, hcode⟩)

end SourceFile

/-- The code that is read stands where it has been recorded. -/
theorem standsIn_of_lexFrom (hreading : reading.StandsIn text) {lexed : Lexed}
    (hlexed : lexFrom? reading = some lexed) (htoken : token ∈ lexed.tokens)
    (hcode : token.isCode = true) : token.StandsIn text := by
  obtain ⟨state, hread, rfl⟩ := Option.map_eq_some_iff.mp hlexed
  have hmem : token ∈ (finishText state).tokens.filter Token.isCode :=
    List.mem_filter.mpr ⟨htoken, hcode⟩
  rw [code_finishText, List.mem_reverse] at hmem
  exact (readAll_keepsPlaces (.start hreading) hread).code token hmem

namespace SourceFile

/-- Every token of a file stands in its text where it has been recorded. -/
theorem standsIn_of_read {path : Project.Path} {text : String} {file : SourceFile}
    (hread : SourceFile.read? path text = some file) {token : Token} (hholds : file.Holds token) :
    token.StandsIn (endLastLine (normalizeNewlines text.toList)) := by
  induction hholds with
  | code htoken =>
      simp only [SourceFile.read?, Option.bind_eq_bind, Option.bind_eq_some_iff] at hread
      obtain ⟨lexed, hlexed, module, -, hread⟩ := hread
      cases hread
      obtain ⟨htoken, hcode⟩ := List.mem_filter.mp htoken
      unfold lex? at hlexed
      split at hlexed
      · cases hlexed
      · exact standsIn_of_lexFrom (Reading.standsIn_start _) hlexed htoken hcode
  | field _ hplaced hpieces hmem hlexed htoken hcode ih =>
      have hreading := PlacedString.readings_standIn (ih.inside _ hplaced) hpieces _ hmem
      exact standsIn_of_lexFrom hreading hlexed htoken hcode

end SourceFile

/-- A token stands in its line behind characters that its column and its byte offset
count. -/
theorem Token.StandsIn.exists_lineOfText
    (hstands : token.StandsIn (endLastLine (normalizeNewlines text))) :
    ∃ front more, lineOfText text token.start.line = front ++ more ∧
      token.start.column = front.length ∧ token.byte = (encode front).length := by
  obtain ⟨lines, front, c, rest, htext, hlines, hfront, hc, hstart, hbyte⟩ := hstands.place
  have hsplit : c :: rest =
      (c :: rest).takeWhile (· != '\n') ++ (c :: rest).dropWhile (· != '\n') :=
    List.takeWhile_append_dropWhile.symm
  refine ⟨front, (c :: rest).takeWhile (· != '\n'), ?_, by rw [hstart], hbyte⟩
  rw [hsplit, ← List.append_assoc, List.append_assoc (writeLines lines)] at htext
  rw [lineOfText, hstart, Nat.add_sub_cancel,
    getElem?_splitNewlines_of_endLastLine htext hlines, Option.getD_some]
  · rw [List.mem_append, not_or]
    exact ⟨hfront, fun hmem => absurd (List.mem_takeWhile_imp hmem) (by decide)⟩
  · simp [hc]
  · intro d hd
    have hhead := List.head?_dropWhile_not (· != '\n') (c :: rest)
    rw [Option.mem_def.mp hd] at hhead
    simpa using hhead

/-- A node has the place of its first token, if the line that is looked up is the line of the
node. -/
theorem Token.StandsIn.position_eq {file : SourceFile}
    (hstands : token.StandsIn (endLastLine (normalizeNewlines text)))
    (hlookup : file.lineOf token.start.line = lineOfText text token.start.line) :
    file.position token.node = token.start := by
  obtain ⟨front, behind, hline, hcolumn, hcount⟩ := hstands.exists_lineOfText
  have hplace : file.position token.node =
      ⟨token.start.line, columnOfByte token.byte (file.lineOf token.start.line)⟩ := rfl
  rw [hplace, hlookup, hline, hcount, columnOfByte_append, ← hcolumn]

/-- The column of a byte offset is the greatest number of characters of the line that take
no more bytes.  It is exact where a character starts, never more than the length of the
line, and grows with the offset.  A node whose start is read at a token therefore has the
place of the token, if the line that is looked up is the line of the node.  Every call of a
file is such a node, those in the fields of formatted texts included. -/
theorem position_exact :
    (∀ line offset,
      IsGreatest {column | column ≤ line.length ∧ (encode (line.take column)).length ≤ offset}
        (columnOfByte offset line)) ∧
    (∀ line column, column ≤ line.length →
      columnOfByte (encode (line.take column)).length line = column) ∧
    (∀ line, Monotone fun offset => columnOfByte offset line) ∧
    (∀ (file : SourceFile) start,
      file.position start = ⟨start.line, columnOfByte start.byte (file.lineOf start.line)⟩) ∧
    (∀ path (text : String) file, SourceFile.read? path text = some file →
      ∀ token ∈ file.code, ∀ more start rest, Rule.here (token :: more) = some (start, rest) →
        file.lineOf start.line = lineOfText text.toList start.line →
        file.position start = token.start) ∧
    ∀ path (text : String) file, SourceFile.read? path text = some file →
      ∀ start ∈ Module.calls file.module, ∃ token, file.Holds token ∧ token.node = start ∧
        (file.lineOf start.line = lineOfText text.toList start.line →
          file.position start = token.start) := by
  refine ⟨fun line offset => isGreatest_columnOfByte offset line, ?_,
    monotone_columnOfByte, fun _ _ => rfl, ?_, ?_⟩
  · intro line column hcolumn
    have hexact := columnOfByte_append (line.take column) (line.drop column)
    rwa [List.take_append_drop, List.length_take_of_le hcolumn] at hexact
  · intro path text file hread token htoken more start rest hstart hlookup
    cases hstart
    exact (SourceFile.standsIn_of_read hread (.code htoken)).position_eq hlookup
  · intro path text file hread start hstart
    obtain ⟨token, hholds, rfl⟩ := SourceFile.exists_token_of_call hread hstart
    exact ⟨token, hholds, rfl, (SourceFile.standsIn_of_read hread hholds).position_eq⟩

/-- A program with a call behind characters of two and of four bytes, and with another in a
field of a formatted text. -/
def wideText : String :=
  "x = \"ü😀\"; api.get(f\"ö\x7bkey()\x7d\")\n"

@[irreducible]
def wideFile : SourceFile :=
  (SourceFile.read? ⟨"", ["wide.py"]⟩ wideText).get (by decide +kernel)

theorem read_wideText : SourceFile.read? ⟨"", ["wide.py"]⟩ wideText = some wideFile := by
  unfold wideFile
  exact (Option.some_get _).symm

/-- The outer call starts at the fifteenth byte, which is the eleventh character; the inner
one at the 28th byte, which is the 23rd character. -/
theorem position_exact_wide :
    callsInStatements wideFile.module = [⟨1, 14⟩, ⟨1, 27⟩] ∧
      wideFile.position ⟨1, 14⟩ = ⟨1, 10⟩ ∧
      columnOfByte 14 (wideFile.lineOf 1) = 10 ∧
      ∃ token, wideFile.Holds token ∧ token.node = ⟨1, 27⟩ ∧ token.start = ⟨1, 22⟩ := by
  obtain ⟨-, hexact, -, -, htokens, hcalls⟩ := position_exact
  have hcolumn := hexact (wideFile.lineOf 1) 10 (by decide +kernel)
  have hbytes : (encode ((wideFile.lineOf 1).take 10)).length = 14 := by decide +kernel
  rw [hbytes] at hcolumn
  let token : Token := ⟨.name "api", ⟨1, 10⟩, ⟨1, 13⟩, 14⟩
  have hplace := htokens _ _ _ read_wideText token (by decide +kernel) [] ⟨1, 14⟩ [token] rfl
    (by decide +kernel)
  obtain ⟨inner, hholds, hnode, hinner⟩ :=
    hcalls _ _ _ read_wideText ⟨1, 27⟩ (List.mem_mergeSort.mpr (by decide +kernel))
  have hfield : wideFile.position ⟨1, 27⟩ = ⟨1, 22⟩ := by decide +kernel
  exact ⟨by decide +kernel, hplace, hcolumn, inner, hholds, hnode,
    (hinner (by decide +kernel)).symm.trans hfield⟩

end RouteScribe.Source
