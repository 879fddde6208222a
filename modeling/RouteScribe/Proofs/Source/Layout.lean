import RouteScribe.Proofs.Source.Placement
import RouteScribe.Proofs.Source.Weight
import RouteScribe.Proofs.Text.Lines

/-!
# Where tokens and comments stand

While a text is read, the place of its next character is known, so tokens and comments
are recorded where they stand.  The code tokens follow one another, every comment runs to
the end of its line, and what stands in front of a comment in its line is blank unless
it is code.  Each of these facts is an invariant of the few ways in which the reading of
a text goes on.
-/

namespace RouteScribe.Source

open RouteScribe.Text

/-! ### Places of a reading -/

def writeLines (lines : List (List Char)) : List Char :=
  lines.flatMap (· ++ ['\n'])

/-- The line that follows some lines has their number. -/
theorem getElem?_splitNewlines {lines : List (List Char)} {row rest : List Char}
    (hlines : ∀ line ∈ lines, '\n' ∉ line) (hrow : '\n' ∉ row)
    (hrest : ∀ c ∈ rest.head?, c = '\n') :
    (splitNewlines (writeLines lines ++ row ++ rest))[lines.length]? = some row := by
  induction lines with
  | nil =>
      cases rest with
      | nil => simp [writeLines, splitNewlines, splitOnChar_of_not_mem hrow]
      | cons c rest =>
          obtain rfl := hrest c rfl
          simp [writeLines, splitNewlines, splitOnChar_append_cons hrow]
  | cons line lines ih =>
      rw [List.forall_mem_cons] at hlines
      have hsplit : splitNewlines (writeLines (line :: lines) ++ row ++ rest) =
          line :: splitNewlines (writeLines lines ++ row ++ rest) := by
        rw [splitNewlines, splitNewlines, ← splitOnChar_append_cons hlines.1]
        simp [writeLines]
      rw [hsplit]
      simpa using ih hlines.2

namespace Reading

/-- A reading of a text stands after complete lines and the front of the next one. -/
structure IsAfter (reading : Reading) (text : List Char) (lines : List (List Char))
    (front : List Char) : Prop where
  text_eq : text = writeLines lines ++ front ++ reading.rest
  not_mem_lines : ∀ line ∈ lines, '\n' ∉ line
  not_mem_front : '\n' ∉ front
  line_eq : reading.line = lines.length + 1
  column_eq : reading.column = front.length

/-- Nothing but the end of the line follows. -/
def AtLineEnd (reading : Reading) : Prop :=
  ∀ c ∈ reading.rest.head?, c = '\n'

variable {reading : Reading} {text rest : List Char} {lines : List (List Char)}
  {front : List Char} {c : Char}

theorem advance_of_nil (hrest : reading.rest = []) (count : Nat) :
    reading.advance count = reading := by
  cases count with
  | zero => rfl
  | succ count => simp [advance, hrest]

theorem advance_succ (count : Nat) (reading : Reading) :
    reading.advance (count + 1) = (reading.advance 1).advance count := by
  cases hrest : reading.rest with
  | nil => simp [advance_of_nil hrest]
  | cons c rest =>
      by_cases hc : c = '\n'
      · simp [advance, hrest, hc]
      · simp [advance, hrest]

/-- A line end completes the line in front of it. -/
theorem IsAfter.newline (hafter : reading.IsAfter text lines front)
    (hrest : reading.rest = '\n' :: rest) :
    (reading.advance 1).IsAfter text (lines ++ [front]) [] := by
  have hnext : reading.advance 1 = ⟨rest, reading.line + 1, 0, 0⟩ := by simp [advance, hrest]
  rw [hnext]
  constructor
  · simp [hafter.text_eq, hrest, writeLines]
  · intro line hline
    rcases List.mem_append.mp hline with hline | hline
    · exact hafter.not_mem_lines line hline
    · rw [List.mem_singleton.mp hline]
      exact hafter.not_mem_front
  · exact List.not_mem_nil
  · simp [hafter.line_eq]
  · rfl

/-- Any other character goes to the end of the line. -/
theorem IsAfter.char (hafter : reading.IsAfter text lines front)
    (hrest : reading.rest = c :: rest) (hc : c ≠ '\n') :
    (reading.advance 1).IsAfter text lines (front ++ [c]) := by
  have hnext : reading.advance 1 =
      ⟨rest, reading.line, reading.column + 1, reading.byte + c.utf8Size⟩ := by
    simp [advance, hrest]
  rw [hnext]
  constructor
  · simp [hafter.text_eq, hrest]
  · exact hafter.not_mem_lines
  · simp [hafter.not_mem_front, Ne.symm hc]
  · exact hafter.line_eq
  · simp [hafter.column_eq]

/-- However far a reading goes, it comes to stand after some lines and a front. -/
theorem IsAfter.advance (hafter : reading.IsAfter text lines front) (count : Nat) :
    ∃ lines front, (reading.advance count).IsAfter text lines front := by
  induction count generalizing reading lines front with
  | zero => exact ⟨lines, front, hafter⟩
  | succ count ih =>
      rw [advance_succ]
      cases hrest : reading.rest with
      | nil =>
          rw [advance_of_nil hrest]
          exact ih hafter
      | cons c rest =>
          by_cases hc : c = '\n'
          · subst hc
            exact ih (hafter.newline hrest)
          · exact ih (hafter.char hrest hc)

/-- Characters without a line feed are added to the front of the line. -/
theorem IsAfter.advance_length (hafter : reading.IsAfter text lines front) {piece : List Char}
    (hrest : reading.rest = piece ++ rest) (hpiece : '\n' ∉ piece) :
    (reading.advance piece.length).IsAfter text lines (front ++ piece) := by
  induction piece generalizing reading front with
  | nil =>
      rw [List.append_nil]
      exact hafter
  | cons c piece ih =>
      rw [List.mem_cons, not_or] at hpiece
      have hnext := hafter.char hrest (Ne.symm hpiece.1)
      have hmore : (reading.advance 1).rest = piece ++ rest := by simp [hrest]
      rw [List.length_cons, advance_succ, List.append_cons]
      exact ih hnext hmore hpiece.2

/-- Reading on never goes back. -/
theorem position_le_advance (count : Nat) (reading : Reading) :
    reading.position ≤ (reading.advance count).position := by
  fun_induction Reading.advance count reading with
  | case1 => exact le_rfl
  | case2 => exact le_rfl
  | case3 count reading rest hrest ih =>
      apply le_trans _ ih
      simp [Position.le_iff, position]
  | case4 count reading c rest _ hrest ih =>
      apply le_trans _ ih
      simp [Position.le_iff, position]

theorem position_lt_advance {count : Nat} (hcount : 1 ≤ count)
    (hrest : reading.rest = c :: rest) :
    reading.position < (reading.advance count).position := by
  obtain ⟨more, rfl⟩ := Nat.exists_eq_add_of_le' hcount
  rw [advance_succ]
  apply lt_of_lt_of_le _ (position_le_advance more (reading.advance 1))
  by_cases hc : c = '\n'
  · simp [Position.lt_iff, position, advance, hrest, hc]
  · simp [Position.lt_iff, position, advance, hrest]

end Reading

/-! ### The layout of what has been read -/

/-- A comment stands in a text where it has been recorded, and runs to the end of its
line.  What stands in front of it in its line is blank, or it ends with code. -/
structure Comment.StandsIn (text : List Char) (code : List Token) (comment : Comment) :
    Prop where
  mark : comment.text.toList.head? = some '#'
  unbroken : '\n' ∉ comment.text.toList
  place : ∃ reading : Reading, ∃ lines front rest, reading.IsAfter text lines front ∧
    reading.position = comment.start ∧ reading.rest = comment.text.toList ++ rest ∧
    (∀ c ∈ rest.head?, c = '\n') ∧
    ((∀ c ∈ front, isBlank c) ∨
      ∃ token ∈ code, token.stop.line = comment.start.line ∧ token.start < comment.start)

/-- What has been found in a text up to some place of it.  Code tokens and comments are
held with the last one first. -/
structure Layout (text : List Char) (reading : Reading) (code : List Token)
    (comments : List Comment) : Prop where
  /-- The front of the line is blank or has code, unless the line ends here. -/
  place : ∃ lines front, reading.IsAfter text lines front ∧
    (reading.AtLineEnd ∨ (∀ c ∈ front, isBlank c) ∨
      ∃ token ∈ code, token.stop.line = reading.line)
  extent : ∀ token ∈ code, token.start < token.stop ∧ token.stop ≤ reading.position
  sequence : code.Pairwise fun later earlier => earlier.stop ≤ later.start
  standing : ∀ comment ∈ comments, comment.StandsIn text code
  /-- No comment has anything after it in its line. -/
  passed : ∀ comment ∈ comments, comment.start.line < reading.line ∨
    comment.start.line = reading.line ∧ reading.AtLineEnd
  apart : comments.Pairwise fun later earlier => earlier.start.line < later.start.line
  lineEnd : ∀ comment ∈ comments, ∀ token ∈ code,
    token.start.line = comment.start.line → token.start < comment.start

namespace Layout

variable {text : List Char} {reading : Reading} {code : List Token} {comments : List Comment}
  {c : Char} {rest : List Char}

theorem start (text : List Char) : Layout text ⟨text, 1, 0, 0⟩ [] [] where
  place := ⟨[], [], ⟨by simp [writeLines], by simp, by simp, rfl, rfl⟩, .inr (.inl (by simp))⟩
  extent := by simp
  sequence := .nil
  standing := by simp
  passed := by simp
  apart := .nil
  lineEnd := by simp

/-- Where a line goes on, it has had no comment. -/
theorem comment_line_lt (hlayout : Layout text reading code comments)
    (hrest : reading.rest = c :: rest) (hc : c ≠ '\n') :
    ∀ comment ∈ comments, comment.start.line < reading.line := by
  intro comment hcomment
  apply (hlayout.passed comment hcomment).resolve_right
  rintro ⟨-, hend⟩
  exact hc (hend c (by simp [hrest]))

/-- Passing over characters keeps what has been found, if the line is as it should be
after them and the comments are passed. -/
theorem advance (hlayout : Layout text reading code comments) {count : Nat}
    (hplace : ∃ lines front, (reading.advance count).IsAfter text lines front ∧
      ((reading.advance count).AtLineEnd ∨ (∀ c ∈ front, isBlank c) ∨
        ∃ token ∈ code, token.stop.line = (reading.advance count).line))
    (hpassed : ∀ comment ∈ comments, comment.start.line < (reading.advance count).line) :
    Layout text (reading.advance count) code comments where
  place := hplace
  extent := by
    intro token htoken
    obtain ⟨hstart, hstop⟩ := hlayout.extent token htoken
    exact ⟨hstart, hstop.trans (Reading.position_le_advance count reading)⟩
  sequence := hlayout.sequence
  standing := hlayout.standing
  passed := fun comment hcomment => .inl (hpassed comment hcomment)
  apart := hlayout.apart
  lineEnd := hlayout.lineEnd

/-- A blank in a line. -/
theorem blank (hlayout : Layout text reading code comments) (hrest : reading.rest = c :: rest)
    (hblank : isBlank c) (hc : c ≠ '\n') : Layout text (reading.advance 1) code comments := by
  obtain ⟨lines, front, hafter, hfront⟩ := hlayout.place
  have hline : (reading.advance 1).line = reading.line := by
    simp [Reading.advance, hrest]
  apply hlayout.advance
  · refine ⟨lines, _, hafter.char hrest hc, .inr ?_⟩
    rw [hline]
    rcases hfront with hend | hfront | htoken
    · exact absurd (hend c (by simp [hrest])) hc
    · exact .inl (by simpa [or_imp, forall_and] using And.intro hfront hblank)
    · exact .inr htoken
  · rw [hline]
    exact hlayout.comment_line_lt hrest hc

/-- The end of a line. -/
theorem newline (hlayout : Layout text reading code comments)
    (hrest : reading.rest = '\n' :: rest) : Layout text (reading.advance 1) code comments := by
  obtain ⟨lines, front, hafter, -⟩ := hlayout.place
  have hline : (reading.advance 1).line = reading.line + 1 := by simp [Reading.advance, hrest]
  apply hlayout.advance
  · exact ⟨_, [], hafter.newline hrest, .inr (.inl (by simp))⟩
  · intro comment hcomment
    rw [hline]
    rcases hlayout.passed comment hcomment with hlt | ⟨heq, -⟩
    · exact Nat.lt_succ_of_lt hlt
    · exact Nat.lt_succ_of_le heq.le

/-- Two lines that are joined by a backslash. -/
theorem joined (hlayout : Layout text reading code comments)
    (hrest : reading.rest = '\\' :: '\n' :: rest) :
    Layout text (reading.advance 2) code comments := by
  obtain ⟨lines, front, hafter, -⟩ := hlayout.place
  have hnext : (reading.advance 1).rest = '\n' :: rest := by simp [hrest]
  have hline : (reading.advance 2).line = reading.line + 1 := by simp [Reading.advance, hrest]
  apply hlayout.advance
  · refine ⟨lines ++ [front ++ ['\\']], [], ?_, .inr (.inl (by simp))⟩
    rw [Reading.advance_succ]
    exact (hafter.char hrest (by decide)).newline hnext
  · intro comment hcomment
    rw [hline]
    exact Nat.lt_succ_of_lt (hlayout.comment_line_lt hrest (by decide) comment hcomment)

/-- A token of the next characters. -/
theorem addToken (hlayout : Layout text reading code comments) (hrest : reading.rest = c :: rest)
    (hc : c ≠ '\n') {count : Nat} (hcount : 1 ≤ count) {token : Token}
    (hstart : token.start = reading.position)
    (hstop : token.stop = (reading.advance count).position) :
    Layout text (reading.advance count) (token :: code) comments := by
  have hlt : ∀ comment ∈ comments, comment.start.line < reading.line :=
    hlayout.comment_line_lt hrest hc
  have hle := Reading.position_le_advance count reading
  constructor
  · obtain ⟨lines, front, hafter, -⟩ := hlayout.place
    obtain ⟨lines, front, hafter⟩ := hafter.advance count
    refine ⟨lines, front, hafter, .inr (.inr ⟨token, List.mem_cons_self, ?_⟩)⟩
    rw [hstop]
    rfl
  · intro other hother
    rcases List.mem_cons.mp hother with rfl | hother
    · rw [hstart, hstop]
      exact ⟨Reading.position_lt_advance hcount hrest, le_rfl⟩
    · exact (hlayout.extent other hother).imp_right hle.trans'
  · refine .cons ?_ hlayout.sequence
    intro earlier hearlier
    rw [hstart]
    exact (hlayout.extent earlier hearlier).2
  · intro comment hcomment
    obtain ⟨hmark, hunbroken, reading, lines, front, rest, hafter, hplace, hrest, hend,
      hfront⟩ := hlayout.standing comment hcomment
    refine ⟨hmark, hunbroken, reading, lines, front, rest, hafter, hplace, hrest, hend, ?_⟩
    apply hfront.imp_right
    rintro ⟨other, hother, hbefore⟩
    exact ⟨other, List.mem_cons_of_mem _ hother, hbefore⟩
  · intro comment hcomment
    exact .inl ((hlt comment hcomment).trans_le (Position.line_le hle))
  · exact hlayout.apart
  · intro comment hcomment other hother hline
    rcases List.mem_cons.mp hother with rfl | hother
    · rw [hstart] at hline
      exact absurd hline (hlt comment hcomment).ne'
    · exact hlayout.lineEnd comment hcomment other hother hline

/-- A comment up to the end of the line. -/
theorem addComment (hlayout : Layout text reading code comments)
    (hrest : reading.rest = '#' :: rest) :
    let shown := '#' :: rest.takeWhile (· != '\n')
    Layout text (reading.advance shown.length) code
      (⟨reading.position, .ofList shown⟩ :: comments) := by
  intro shown
  have hlt : ∀ comment ∈ comments, comment.start.line < reading.line :=
    hlayout.comment_line_lt hrest (by decide)
  have hunbroken : '\n' ∉ shown := by
    intro hmem
    rcases List.mem_cons.mp hmem with heq | hmem
    · exact absurd heq (by decide)
    · exact absurd (List.mem_takeWhile_imp hmem) (by decide)
  have hsplit : reading.rest = shown ++ rest.dropWhile (· != '\n') := by
    simp [shown, hrest, List.takeWhile_append_dropWhile]
  have hend : ∀ c ∈ (rest.dropWhile (· != '\n')).head?, c = '\n' := by
    intro c hc
    have hhead := List.head?_dropWhile_not (· != '\n') rest
    rw [Option.mem_def.mp hc] at hhead
    simpa using hhead
  obtain ⟨lines, front, hafter, hfront⟩ := hlayout.place
  have hnext := hafter.advance_length hsplit hunbroken
  have hline : (reading.advance shown.length).line = reading.line := by
    rw [hnext.line_eq, hafter.line_eq]
  have hatEnd : (reading.advance shown.length).AtLineEnd := by
    intro c hc
    rw [Reading.rest_advance, hsplit, List.drop_left] at hc
    exact hend c hc
  constructor
  · exact ⟨lines, _, hnext, .inl hatEnd⟩
  · intro token htoken
    exact (hlayout.extent token htoken).imp_right
      (Reading.position_le_advance shown.length reading).trans'
  · exact hlayout.sequence
  · intro comment hcomment
    rcases List.mem_cons.mp hcomment with rfl | hcomment
    · refine ⟨by simp [shown], by simpa using hunbroken, reading, lines, front, _, hafter, rfl,
        by simpa using hsplit, hend, ?_⟩
      rcases hfront with hend | hblank | ⟨token, htoken, hline⟩
      · exact absurd (hend '#' (by simp [hrest])) (by decide)
      · exact .inl hblank
      · obtain ⟨hstart, hstop⟩ := hlayout.extent token htoken
        exact .inr ⟨token, htoken, hline, hstart.trans_le hstop⟩
    · exact hlayout.standing comment hcomment
  · intro comment hcomment
    rcases List.mem_cons.mp hcomment with rfl | hcomment
    · exact .inr ⟨hline.symm, hatEnd⟩
    · rw [hline]
      exact .inl (hlt comment hcomment)
  · exact .cons hlt hlayout.apart
  · intro comment hcomment token htoken htokenLine
    rcases List.mem_cons.mp hcomment with rfl | hcomment
    · obtain ⟨hstart, hstop⟩ := hlayout.extent token htoken
      exact hstart.trans_le hstop
    · exact hlayout.lineEnd comment hcomment token htoken htokenLine

/-! ### Gaps between tokens -/

/-- What may stand between tokens: blanks, and line ends after a backslash. -/
inductive IsGap : List Char → Prop where
  | nil : IsGap []
  | blank {c : Char} {gap : List Char} (hc : c = ' ' ∨ c = '\t' ∨ c = '\x0c') (hgap : IsGap gap) :
      IsGap (c :: gap)
  | joined {gap : List Char} (hgap : IsGap gap) : IsGap ('\\' :: '\n' :: gap)

/-- The characters of a gap are blank and stay in their line, apart from the joints. -/
theorem isBlank_of_eq (hc : c = ' ' ∨ c = '\t' ∨ c = '\x0c') : isBlank c ∧ c ≠ '\n' := by
  rcases hc with rfl | rfl | rfl <;> decide

/-- A gap between tokens keeps the layout. -/
theorem gap (hlayout : Layout text reading code comments) {gap : List Char} (hgap : IsGap gap)
    (hrest : reading.rest = gap ++ rest) :
    Layout text (reading.advance gap.length) code comments := by
  induction hgap generalizing reading with
  | nil => exact hlayout
  | @blank c gap hc hgap ih =>
      obtain ⟨hblank, hline⟩ := isBlank_of_eq hc
      rw [List.length_cons, Reading.advance_succ]
      apply ih (hlayout.blank hrest hblank hline)
      simp [hrest]
  | @joined gap hgap ih =>
      have hadvance : reading.advance (gap.length + 2) =
          (reading.advance 2).advance gap.length := by
        rw [Reading.advance_succ (gap.length + 1), Reading.advance_succ gap.length,
          Reading.advance_succ 1]
      rw [List.length_cons, List.length_cons, hadvance]
      apply ih (hlayout.joined hrest)
      simp [hrest]

/-- An indentation that is measured is a gap. -/
theorem measureIndent_gap {fuel : Nat} {width measured : Indentation} {joined taken total : Nat}
    (hmeasure : measureIndent fuel width joined taken text = some (measured, total)) :
    ∃ gap rest, IsGap gap ∧ text = gap ++ rest ∧ total = taken + gap.length := by
  fun_induction measureIndent fuel width joined taken text with
  | case1 => cases hmeasure
  | case2 fuel width joined taken rest ih =>
      obtain ⟨gap, rest, hgap, rfl, rfl⟩ := ih hmeasure
      exact ⟨' ' :: gap, rest, .blank (by decide) hgap, rfl, by simp; omega⟩
  | case3 fuel width joined taken rest ih =>
      obtain ⟨gap, rest, hgap, rfl, rfl⟩ := ih hmeasure
      exact ⟨'\t' :: gap, rest, .blank (by decide) hgap, rfl, by simp; omega⟩
  | case4 fuel width joined taken rest ih =>
      obtain ⟨gap, rest, hgap, rfl, rfl⟩ := ih hmeasure
      exact ⟨'\x0c' :: gap, rest, .blank (by decide) hgap, rfl, by simp; omega⟩
  | case5 => cases hmeasure
  | case6 fuel width joined taken more hmore ih =>
      obtain ⟨gap, rest, hgap, rfl, rfl⟩ := ih hmeasure
      exact ⟨'\\' :: '\n' :: gap, rest, .joined hgap, rfl, by simp; omega⟩
  | case7 => cases hmeasure
  | case8 =>
      cases hmeasure
      exact ⟨[], _, .nil, rfl, rfl⟩

end Layout

/-! ### Reading a text -/

namespace LexState

def code (state : LexState) : List Token :=
  state.tokens.filter Token.isCode

/-- The tokens and comments of a state are laid out as they stand in a text. -/
def IsLaidOut (text : List Char) (state : LexState) : Prop :=
  Layout text state.reading state.code state.comments

/-- A state that differs in marks and in the structure of lines only. -/
structure Resembles (before after : LexState) : Prop where
  reading : after.reading = before.reading
  code : after.code = before.code
  comments : after.comments = before.comments

variable {text : List Char} {state after : LexState} {c : Char} {rest : List Char}

theorem Resembles.isLaidOut (hlike : state.Resembles after) (hlaid : state.IsLaidOut text) :
    after.IsLaidOut text := by
  unfold IsLaidOut
  rw [hlike.reading, hlike.code, hlike.comments]
  exact hlaid

theorem Resembles.refl (state : LexState) : state.Resembles state :=
  ⟨rfl, rfl, rfl⟩

theorem Resembles.trans {middle : LexState} (hfirst : state.Resembles middle)
    (hsecond : middle.Resembles after) : state.Resembles after :=
  ⟨hsecond.reading.trans hfirst.reading, hsecond.code.trans hfirst.code,
    hsecond.comments.trans hfirst.comments⟩

theorem Resembles.addMark (state : LexState) {kind : TokenKind}
    (hkind : ∀ start stop byte, Token.isCode ⟨kind, start, stop, byte⟩ = false) :
    state.Resembles (state.addMark kind) := by
  refine ⟨rfl, ?_, rfl⟩
  simp only [LexState.code, LexState.addMark]
  rw [List.filter_cons_of_neg (by simp [hkind])]

/-- A token that takes a character keeps the text laid out. -/
theorem IsLaidOut.addToken (hlaid : state.IsLaidOut text) (hrest : state.reading.rest = c :: rest)
    (hc : c ≠ '\n') {kind : TokenKind} {length : Nat} (hlength : 1 ≤ length)
    (hkind : ∀ start stop byte, Token.isCode ⟨kind, start, stop, byte⟩ = true) :
    (state.addToken kind length).IsLaidOut text := by
  have hcode : (state.addToken kind length).code =
      ⟨kind, state.reading.position, (state.reading.advance length).position,
        state.reading.byte⟩ :: state.code :=
    List.filter_cons_of_pos (hkind _ _ _)
  unfold IsLaidOut
  rw [hcode]
  exact Layout.addToken hlaid hrest hc hlength rfl rfl

end LexState

open LexState

variable {text : List Char} {state after : LexState} {c : Char} {rest : List Char}

theorem closeBlocks_resembles {width : Indentation} {blocks : List Indentation}
    (hclose : closeBlocks width blocks state = some after) : state.Resembles after := by
  induction blocks generalizing state with
  | nil => cases hclose
  | cons block blocks ih =>
      simp only [closeBlocks] at hclose
      split at hclose
      · have hmark : state.Resembles (state.addMark .dedent) := .addMark state fun _ _ _ => rfl
        apply Resembles.trans _ (ih hclose)
        exact ⟨hmark.reading, hmark.code, hmark.comments⟩
      · split at hclose
        · cases hclose
          exact .refl _
        · cases hclose

theorem indentLine_resembles {width : Indentation}
    (hindent : indentLine state width = some after) : state.Resembles after := by
  unfold indentLine at hindent
  split at hindent
  · cases hindent
  · split at hindent
    · split at hindent
      · cases hindent
        exact .refl _
      · cases hindent
    · split at hindent
      · split at hindent
        · cases hindent
        · cases hindent
          have hmark : state.Resembles (state.addMark .indent) := .addMark state fun _ _ _ => rfl
          exact ⟨hmark.reading, hmark.code, hmark.comments⟩
      · exact closeBlocks_resembles hindent

/-- The start of a line keeps the text laid out. -/
theorem startLine_isLaidOut (hlaid : state.IsLaidOut text)
    (hstart : startLine state = some after) : after.IsLaidOut text := by
  simp only [startLine, Option.bind_eq_bind, Option.bind_eq_some_iff, Prod.exists] at hstart
  obtain ⟨width, taken, hmeasure, hstart⟩ := hstart
  obtain ⟨gap, rest, hgap, hrest, htaken⟩ := Layout.measureIndent_gap hmeasure
  rw [Nat.zero_add] at htaken
  subst htaken
  have hskip : (state.skip gap.length).IsLaidOut text := Layout.gap hlaid hgap hrest
  split at hstart
  · cases hstart
    exact hskip
  · cases hstart
    exact hskip
  · cases hstart
    exact hskip
  · split at hstart
    · exact (indentLine_resembles hstart).isLaidOut hskip
    · cases hstart
      exact hskip

theorem readSymbol_isLaidOut (hlaid : state.IsLaidOut text)
    (hrest : state.reading.rest = c :: rest) (hc : c ≠ '\n')
    (hread : readSymbol state = some after) : after.IsLaidOut text := by
  simp only [readSymbol, Option.bind_eq_bind, Option.bind_eq_some_iff] at hread
  obtain ⟨symbol, hfind, hread⟩ := hread
  have hlength : 1 ≤ symbol.length := by
    have hall : ∀ symbol ∈ symbols, 1 ≤ symbol.length := by decide
    exact hall symbol (List.mem_of_find?_eq_some hfind)
  split at hread
  · cases hread
  · cases hread
    exact hlaid.addToken hrest hc hlength fun _ _ _ => rfl

theorem readWord_isLaidOut (hlaid : state.IsLaidOut text)
    (hrest : state.reading.rest = c :: rest) (hc : c ≠ '\n')
    (hread : readWord state = some after) : after.IsLaidOut text := by
  simp only [readWord] at hread
  split at hread
  · simp only [Option.bind_eq_bind, Option.bind_eq_some_iff, Prod.exists] at hread
    obtain ⟨body, quotes, hquoted, hread⟩ := hread
    cases hread
    have hquotes := (length_quotedPart hquoted).1
    refine hlaid.addToken hrest hc (by omega) fun _ _ _ => Token.isCode_of_weight ?_
    dsimp only
    split
    · exact Nat.le_add_left 1 _
    · exact le_rfl
  · split at hread
    · rename_i hname
      cases hread
      have hlength : 1 ≤ (state.reading.rest.takeWhile continuesName).length := by
        cases hword : state.reading.rest.takeWhile continuesName with
        | nil => simp [hword, isName] at hname
        | cons c rest => simp
      exact hlaid.addToken hrest hc hlength fun _ _ _ => rfl
    · cases hread

/-- Each step of the lexer keeps the text laid out. -/
theorem readNext_isLaidOut (hlaid : state.IsLaidOut text)
    (hread : readNext state = some after) : after.IsLaidOut text := by
  unfold readNext at hread
  split at hread
  · cases hread
    exact hlaid
  · rename_i rest hrest
    cases hread
    exact Layout.addComment hlaid hrest
  · rename_i rest hrest
    cases hread
    split
    · exact Layout.newline hlaid hrest
    · have hmark : state.Resembles (state.addMark .newline) := .addMark state fun _ _ _ => rfl
      exact Layout.newline (hmark.isLaidOut hlaid) hrest
  · rename_i hrest
    split at hread
    · split at hread
      · cases hread
      · cases hread
        exact Layout.joined hlaid hrest
    · cases hread
  · rename_i c rest _ hnewline _ hrest
    have hc : c ≠ '\n' := by
      rintro rfl
      exact hnewline rfl
    split at hread
    · rename_i hblank
      cases hread
      exact Layout.blank hlaid hrest (Layout.isBlank_of_eq hblank).1 hc
    · split at hread
      · rename_i hstart
        simp only [Option.bind_eq_bind, Option.bind_eq_some_iff, Prod.exists] at hread
        obtain ⟨value, taken, hnumber, hread⟩ := hread
        cases hread
        have hfirst : c.isDigit ∨ c = '.' := by
          simp only [Bool.or_eq_true, Bool.and_eq_true, decide_eq_true_eq] at hstart
          exact hstart.imp_right And.left
        rw [hrest] at hnumber
        obtain ⟨hweight, htaken⟩ := weight_readNumber hfirst hnumber
        exact hlaid.addToken hrest hc htaken fun _ _ _ => Token.isCode_of_weight hweight.ge
      · split at hread
        · exact readWord_isLaidOut hlaid hrest hc hread
        · exact readSymbol_isLaidOut hlaid hrest hc hread

/-- A whole reading keeps the text laid out. -/
theorem readAll_isLaidOut {fuel : Nat} (hlaid : state.IsLaidOut text)
    (hread : readAll fuel state = some after) : after.IsLaidOut text := by
  induction fuel generalizing state with
  | zero => cases hread
  | succ fuel ih =>
      simp only [readAll] at hread
      split at hread
      · obtain ⟨next, hnext, hread⟩ := Option.bind_eq_some_iff.mp hread
        exact ih (startLine_isLaidOut hlaid hnext) hread
      · split at hread
        · cases hread
          exact hlaid
        · obtain ⟨next, hnext, hread⟩ := Option.bind_eq_some_iff.mp hread
          exact ih (readNext_isLaidOut hlaid hnext) hread

/-- The marks at the end of a text are no code. -/
theorem code_finishText (state : LexState) :
    (finishText state).tokens.filter Token.isCode = state.code.reverse := by
  have hclosed : ∀ (blocks : List Indentation) (state : LexState),
      state.Resembles (blocks.foldl (fun state _ => state.addMark .dedent) state) := by
    intro blocks
    induction blocks with
    | nil => exact .refl
    | cons block blocks ih =>
        intro state
        exact .trans (.addMark state fun _ _ _ => rfl) (ih (state.addMark .dedent))
  set closed := (state.blocks.drop 1).foldl (fun state _ => state.addMark .dedent) state
  have hfinish : closed.Resembles (closed.addMark .finish) := .addMark closed fun _ _ _ => rfl
  rw [← ((hclosed (state.blocks.drop 1) state).trans hfinish).code]
  exact List.filter_reverse

/-! ### Files that have been read -/

namespace SourceFile

/-- The record that a file keeps of its text is true: the lines are those of the text, the
code tokens are in order, and each comment stands where it has been recorded.  In front of
a comment that has its line to itself there are but blanks. -/
structure Records (file : SourceFile) (text : List Char) : Prop where
  lines : file.lines = (splitLines text).map String.ofList
  order : file.InOrder
  mark : ∀ comment ∈ file.comments, comment.text.toList.head? = some '#'
  place : ∀ comment ∈ file.comments, 1 ≤ comment.start.line ∧ ∃ front,
    (splitNewlines text)[comment.start.line - 1]? = some (front ++ comment.text.toList) ∧
      front.length = comment.start.column ∧
      (file.HasOwnLine comment → ∀ c ∈ front, isBlank c)

end SourceFile

/-- A text with line feeds only is left as it is. -/
theorem normalizeNewlines_of_onlyNewlines {text : List Char} (htext : OnlyNewlines text) :
    normalizeNewlines text = text := by
  induction text with
  | nil => rfl
  | cons c rest ih =>
      have hc : c ≠ '\r' := by
        rintro rfl
        exact absurd (htext '\r' (by simp) (by decide)) (by decide)
      rw [normalizeNewlines]
      · rw [if_neg hc, ih (htext.of_subset (by simp))]
      · rintro _ rfl
        exact absurd rfl hc

/-- The line feed that may be added to a text changes none of its lines with content. -/
theorem getElem?_splitNewlines_of_endLastLine {text row rest : List Char}
    {lines : List (List Char)} (htext : endLastLine text = writeLines lines ++ row ++ rest)
    (hlines : ∀ line ∈ lines, '\n' ∉ line) (hrow : '\n' ∉ row) (hne : row ≠ [])
    (hrest : ∀ c ∈ rest.head?, c = '\n') :
    (splitNewlines text)[lines.length]? = some row := by
  unfold endLastLine at htext
  split at htext
  · rw [htext]
    exact getElem?_splitNewlines hlines hrow hrest
  · rcases List.eq_nil_or_concat rest with rfl | ⟨more, last, rfl⟩
    · -- The line feed that was added would be the end of the row.
      have hlast := congrArg List.getLast? htext
      rw [List.getLast?_concat, List.append_nil, List.getLast?_append_of_ne_nil _ hne] at hlast
      exact absurd (List.mem_of_getLast? hlast.symm) hrow
    · rw [List.concat_eq_append, ← List.append_assoc] at htext
      rw [(List.append_inj' htext rfl).1]
      apply getElem?_splitNewlines hlines hrow
      intro c hc
      apply hrest c
      cases more with
      | nil => cases hc
      | cons first more => exact hc

/-- A file that has been read keeps a true record of its text. -/
theorem SourceFile.records_of_read {path : Project.Path} {text : String} {file : SourceFile}
    (hread : SourceFile.read? path text = some file) (htext : OnlyNewlines text.toList) :
    file.Records text.toList := by
  simp only [SourceFile.read?, Option.bind_eq_bind, Option.bind_eq_some_iff] at hread
  obtain ⟨lexed, hlexed, module, -, hread⟩ := hread
  cases hread
  obtain ⟨fuel, state, hread, rfl⟩ := exists_readAll_of_lex hlexed
  rw [Reading.ofText, normalizeNewlines_of_onlyNewlines htext] at hread
  have hstart : (LexState.start ⟨endLastLine text.toList, 1, 0, 0⟩).IsLaidOut _ := Layout.start _
  have hlayout : Layout _ state.reading state.code state.comments :=
    readAll_isLaidOut hstart hread
  have hcomments : (finishText state).comments = state.comments.reverse := rfl
  have horder : SourceFile.InOrder {
      path
      lines := (splitLines text.toList).map String.ofList
      module
      comments := (finishText state).comments
      code := (finishText state).tokens.filter Token.isCode } := by
    constructor
    · intro token htoken
      rw [code_finishText, List.mem_reverse] at htoken
      exact (hlayout.extent token htoken).1.le
    · rw [code_finishText]
      exact (List.pairwise_reverse.mpr hlayout.sequence).isChain
    · intro comment hcomment token htoken
      rw [hcomments, List.mem_reverse] at hcomment
      rw [code_finishText, List.mem_reverse] at htoken
      exact hlayout.lineEnd comment hcomment token htoken
    · rw [hcomments, List.map_reverse, List.nodup_reverse, List.Nodup, List.pairwise_map]
      exact hlayout.apart.imp Nat.ne_of_gt
  refine ⟨rfl, horder, ?_, ?_⟩
  · intro comment hcomment
    exact (hlayout.standing comment (List.mem_reverse.mp hcomment)).mark
  · intro comment hcomment
    obtain ⟨hmark, hunbroken, reading, lines, front, rest, hafter, hplace, hrest, hend, hfront⟩ :=
      hlayout.standing comment (List.mem_reverse.mp hcomment)
    have hline : comment.start.line = lines.length + 1 := by
      rw [← hplace]
      exact hafter.line_eq
    refine ⟨by omega, front, ?_, ?_, ?_⟩
    · have hsplit : endLastLine text.toList =
          writeLines lines ++ (front ++ comment.text.toList) ++ rest := by
        rw [hafter.text_eq, hrest]
        simp
      rw [hline, Nat.add_sub_cancel]
      apply getElem?_splitNewlines_of_endLastLine hsplit hafter.not_mem_lines
      · simp [hafter.not_mem_front, hunbroken]
      · intro hnil
        rw [(List.append_eq_nil_iff.mp hnil).2] at hmark
        cases hmark
      · exact hend
    · rw [← hplace]
      exact hafter.column_eq.symm
    · intro hown
      apply hfront.resolve_right
      rintro ⟨token, htoken, hstop, hstart⟩
      refine absurd (hown token ?_ hstart) hstop.not_lt
      rw [code_finishText, List.mem_reverse]
      exact htoken

end RouteScribe.Source
