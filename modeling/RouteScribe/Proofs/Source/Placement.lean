import Mathlib.Data.List.Chain
import Mathlib.Data.List.Nodup
import Mathlib.Data.List.TakeWhile
import Mathlib.Data.Prod.Lex
import RouteScribe.Source.File

/-!
# The place that a comment belongs to

A comment that has its line to itself belongs to the code token that follows it.  A node
finds its comment through the token at which it is anchored: the one that it starts with,
or the sign of a decorator in front of it.  The comments between that token and the code
before it are its own, so that nodes with different anchors share none.
-/

namespace RouteScribe.Source

/-! ### The order of positions -/

namespace Position

instance : PartialOrder Position :=
  PartialOrder.lift (fun place => toLex (place.line, place.column)) fun left right heq => by
    cases left
    cases right
    simpa using heq

variable {left right : Position}

theorem le_iff : left ≤ right ↔
    left.line < right.line ∨ left.line = right.line ∧ left.column ≤ right.column :=
  Prod.Lex.toLex_le_toLex

theorem lt_iff : left < right ↔
    left.line < right.line ∨ left.line = right.line ∧ left.column < right.column :=
  Prod.Lex.toLex_lt_toLex

@[simp]
theorem before_iff : left.before right ↔ left < right := by
  simp [before, lt_iff]

theorem line_le (hle : left ≤ right) : left.line ≤ right.line := by
  rw [le_iff] at hle
  omega

theorem not_lt_iff : ¬ left < right ↔ right ≤ left := by
  rw [lt_iff, le_iff]
  omega

instance : DecidableLE Position := fun _ _ => decidable_of_iff _ le_iff.symm

instance : DecidableLT Position := fun _ _ => decidable_of_iff _ lt_iff.symm

end Position

/-! ### Files in order -/

namespace SourceFile

/-- The code tokens of a file stand in the order of the text, and every comment runs to
the end of its line. -/
structure InOrder (file : SourceFile) : Prop where
  extent : ∀ token ∈ file.code, token.start ≤ token.stop
  sequence : file.code.IsChain fun token next => token.stop ≤ next.start
  /-- Code in the line of a comment starts before the comment. -/
  lineEnd : ∀ comment ∈ file.comments, ∀ token ∈ file.code,
    token.start.line = comment.start.line → token.start < comment.start
  /-- A line has one comment at most. -/
  oneComment : (file.comments.map (·.start.line)).Nodup

variable {file : SourceFile} {start : NodeStart} {comment : Comment}

/-- Of two tokens in order the first ends before the second starts. -/
theorem InOrder.pairwise (horder : file.InOrder) :
    file.code.Pairwise fun token next => token.stop ≤ next.start := by
  have hextent := horder.extent
  have hsequence := horder.sequence
  generalize file.code = tokens at hextent hsequence
  induction tokens with
  | nil => exact .nil
  | cons token tokens ih =>
      have hrest := ih (fun next hnext => hextent next (List.mem_cons_of_mem _ hnext))
        hsequence.tail
      refine .cons ?_ hrest
      cases tokens with
      | nil => simp
      | cons second tokens =>
          have hsecond : token.stop ≤ second.start := (List.isChain_cons_cons.mp hsequence).1
          intro next hnext
          rcases List.mem_cons.mp hnext with rfl | hlater
          · exact hsecond
          · calc
              token.stop ≤ second.start := hsecond
              _ ≤ second.stop := hextent second (by simp)
              _ ≤ next.start := List.rel_of_pairwise_cons hrest hlater

/-- The code tokens before and after one of them. -/
theorem InOrder.split (horder : file.InOrder) {before after : List Token} {token : Token}
    (hcode : file.code = before ++ token :: after) :
    (∀ earlier ∈ before, earlier.stop ≤ token.start) ∧
      ∀ later ∈ after, token.stop ≤ later.start := by
  have hpairwise := horder.pairwise
  rw [hcode, List.pairwise_append] at hpairwise
  obtain ⟨-, hafter, hbefore⟩ := hpairwise
  exact ⟨fun earlier hearlier => hbefore earlier hearlier token List.mem_cons_self,
    fun later hlater => List.rel_of_pairwise_cons hafter hlater⟩

/-- No code token starts before those in front of it. -/
theorem InOrder.start_le_of_mem (horder : file.InOrder) {before after : List Token}
    {token : Token} (hcode : file.code = before ++ token :: after) :
    ∀ later ∈ token :: after, token.start ≤ later.start := by
  intro later hlater
  rcases List.mem_cons.mp hlater with rfl | hafter
  · exact le_rfl
  · calc
      token.start ≤ token.stop := horder.extent token (by simp [hcode])
      _ ≤ later.start := (horder.split hcode).2 later hafter

/-! ### Anchors -/

def codeBefore (file : SourceFile) (start : NodeStart) : List Token :=
  file.code.takeWhile (·.start.before (file.position start))

/-- The sign of a decorator in front of a node takes the place of the node. -/
theorem anchor_of_sign {earlier : List Token} {sign : Token}
    (hbefore : file.codeBefore start = earlier ++ [sign]) (hsign : sign.kind = .symbol "@") :
    file.anchor start = (sign.start, earlier.getLast?) := by
  unfold codeBefore at hbefore
  simp [anchor, hbefore, hsign]

/-- Without a sign in front a node is anchored at its own place. -/
theorem anchor_of_no_sign
    (hbefore : ∀ sign ∈ (file.codeBefore start).getLast?, sign.kind ≠ .symbol "@") :
    file.anchor start = (file.position start, (file.codeBefore start).getLast?) := by
  unfold codeBefore at hbefore ⊢
  rw [List.getLast?_eq_head?_reverse] at hbefore ⊢
  unfold anchor
  dsimp only
  split
  · rename_i hnil
    rw [hnil]
    rfl
  · rename_i token earlier hcons
    rw [hcons] at hbefore ⊢
    rw [if_neg (hbefore token rfl)]
    rfl

/-- The anchor of a node cuts the code in two: the token in front of it is the last of the
first part, and the second part does not start before it. -/
structure AnchoredBetween (file : SourceFile) (start : NodeStart) (before after : List Token) :
    Prop where
  code : file.code = before ++ after
  previous : (file.anchor start).2 = before.getLast?
  following : ∀ later ∈ after, (file.anchor start).1 ≤ later.start

/-- The anchor of a node is the first token of the second part, or it lies after the
starts of all tokens of the first part. -/
theorem InOrder.exists_anchoredBetween (horder : file.InOrder) (start : NodeStart) :
    ∃ before after, file.AnchoredBetween start before after ∧
      ((∃ sign ∈ after.head?, sign.start = (file.anchor start).1) ∨
        ∀ earlier ∈ before, earlier.start < (file.anchor start).1) := by
  have hcode : file.codeBefore start ++
      file.code.dropWhile (·.start.before (file.position start)) = file.code :=
    List.takeWhile_append_dropWhile
  by_cases hsign : ∃ sign ∈ (file.codeBefore start).getLast?, sign.kind = .symbol "@"
  · obtain ⟨sign, hlast, hsign⟩ := hsign
    obtain ⟨earlier, hbefore⟩ := List.getLast?_eq_some_iff.mp hlast
    have hplace := anchor_of_sign hbefore hsign
    rw [hbefore, List.append_assoc, List.singleton_append] at hcode
    refine ⟨earlier, _, ⟨hcode.symm, by rw [hplace], ?_⟩, .inl ⟨sign, rfl, by rw [hplace]⟩⟩
    rw [hplace]
    exact horder.start_le_of_mem hcode.symm
  · push Not at hsign
    have hplace := anchor_of_no_sign hsign
    refine ⟨_, _, ⟨hcode.symm, by rw [hplace], ?_⟩, .inr ?_⟩
    · rw [hplace]
      cases hdrop : file.code.dropWhile (·.start.before (file.position start)) with
      | nil => simp
      | cons first after =>
          have hfirst : file.position start ≤ first.start := by
            have hhead := List.head?_dropWhile_not (fun token : Token =>
              token.start.before (file.position start)) file.code
            rw [hdrop] at hhead
            rw [← Position.not_lt_iff, ← Position.before_iff, Bool.not_eq_true]
            exact hhead
          rw [hdrop] at hcode
          intro later hlater
          exact hfirst.trans (horder.start_le_of_mem hcode.symm later hlater)
    · intro earlier hearlier
      rw [codeBefore] at hearlier
      have hstart := List.mem_takeWhile_imp hearlier
      rw [hplace]
      exact Position.before_iff.mp hstart

/-- A node is anchored at a code token, where the given tokens come before. -/
structure AnchoredAt (file : SourceFile) (start : NodeStart) (before : List Token)
    (token : Token) : Prop where
  code : ∃ after, file.code = before ++ token :: after
  anchor : file.anchor start = (token.start, before.getLast?)

theorem AnchoredAt.between (horder : file.InOrder) {before : List Token} {token : Token}
    (hanchored : file.AnchoredAt start before token) :
    ∃ after, file.AnchoredBetween start before (token :: after) := by
  obtain ⟨after, hcode⟩ := hanchored.code
  refine ⟨after, hcode, by rw [hanchored.anchor], ?_⟩
  rw [hanchored.anchor]
  exact horder.start_le_of_mem hcode

/-- A node whose anchor is the start of some code token is anchored at such a token. -/
theorem InOrder.exists_anchoredAt (horder : file.InOrder)
    (hanchor : ∃ token ∈ file.code, token.start = (file.anchor start).1) :
    ∃ before token, file.AnchoredAt start before token := by
  obtain ⟨before, after, hbetween, hplace⟩ := horder.exists_anchoredBetween start
  suffices hfirst : ∃ first ∈ after.head?, first.start = (file.anchor start).1 by
    obtain ⟨first, hhead, hstart⟩ := hfirst
    obtain ⟨rest, rfl⟩ := List.head?_eq_some_iff.mp hhead
    exact ⟨before, first, ⟨rest, hbetween.code⟩, Prod.ext hstart.symm hbetween.previous⟩
  rcases hplace with hsign | hbefore
  · exact hsign
  · obtain ⟨token, htoken, hstart⟩ := hanchor
    rw [hbetween.code, List.mem_append] at htoken
    have hafter : token ∈ after := by
      apply htoken.resolve_left
      intro hmem
      exact (hbefore token hmem).ne hstart
    cases after with
    | nil => cases hafter
    | cons first rest =>
        refine ⟨first, rfl, le_antisymm ?_ (hbetween.following first (by simp))⟩
        rw [← hstart]
        exact horder.start_le_of_mem hbetween.code token hafter

/-! ### The comments of a node -/

/-- A comment has its line to itself if no code stands in front of it there. -/
def HasOwnLine (file : SourceFile) (comment : Comment) : Prop :=
  ∀ token ∈ file.code, token.start < comment.start → token.stop.line < comment.start.line

variable {before after : List Token}

theorem AnchoredBetween.mem_commentsBefore (hbetween : file.AnchoredBetween start before after) :
    comment ∈ file.commentsBefore start ↔ comment ∈ file.comments ∧
      comment.start < (file.anchor start).1 ∧
      ∀ previous ∈ before.getLast?, previous.stop.line < comment.start.line := by
  simp only [commentsBefore, hbetween.previous, List.mem_filter, Bool.and_eq_true,
    Position.before_iff]
  cases before.getLast? <;> simp

/-- The comments of a node come after all code in front of its anchor. -/
theorem AnchoredBetween.stop_line_lt (hbetween : file.AnchoredBetween start before after)
    (horder : file.InOrder) (hcomment : comment ∈ file.commentsBefore start) {earlier : Token}
    (hearlier : earlier ∈ before) : earlier.stop.line < comment.start.line := by
  obtain ⟨-, -, hprevious⟩ := hbetween.mem_commentsBefore.mp hcomment
  have hcode := hbetween.code
  obtain ⟨front, previous, hbefore⟩ :=
    (List.eq_nil_or_concat before).resolve_left (List.ne_nil_of_mem hearlier)
  rw [List.concat_eq_append] at hbefore
  have hlast := hprevious previous (by simp [hbefore])
  rw [hbefore, List.mem_append, List.mem_singleton] at hearlier
  rcases hearlier with hfront | rfl
  · rw [hbefore, List.append_assoc] at hcode
    have hle : earlier.stop ≤ previous.stop :=
      calc
        earlier.stop ≤ previous.start := (horder.split hcode).1 earlier hfront
        _ ≤ previous.stop := horder.extent previous (by simp [hcode])
    exact (Position.line_le hle).trans_lt hlast
  · exact hlast

/-- The comments of a node are on lines of their own. -/
theorem InOrder.hasOwnLine (horder : file.InOrder)
    (hcomment : comment ∈ file.commentsBefore start) : file.HasOwnLine comment := by
  intro token htoken hstart
  obtain ⟨before, after, hbetween, -⟩ := horder.exists_anchoredBetween start
  obtain ⟨-, hplace, -⟩ := hbetween.mem_commentsBefore.mp hcomment
  rw [hbetween.code, List.mem_append] at htoken
  rcases htoken with hbefore | hafter
  · exact hbetween.stop_line_lt horder hcomment hbefore
  · exact absurd (hstart.trans hplace) (hbetween.following token hafter).not_gt

/-- No code starts between a comment of a node and the anchor of the node. -/
theorem InOrder.anchor_le (horder : file.InOrder)
    (hcomment : comment ∈ file.commentsBefore start) {token : Token} (htoken : token ∈ file.code)
    (hstart : comment.start < token.start) : (file.anchor start).1 ≤ token.start := by
  obtain ⟨before, after, hbetween, -⟩ := horder.exists_anchoredBetween start
  rw [hbetween.code, List.mem_append] at htoken
  rcases htoken with hbefore | hafter
  · have hline : comment.start.line ≤ token.stop.line :=
      calc
        comment.start.line ≤ token.start.line := Position.line_le hstart.le
        _ ≤ token.stop.line :=
          Position.line_le (horder.extent token (by simp [hbetween.code, hbefore]))
    exact absurd (hbetween.stop_line_lt horder hcomment hbefore) hline.not_gt
  · exact hbetween.following token hafter

/-- A comment that two nodes share starts in front of both anchors, and there is no code
between it and either of them, so that the anchors are the same. -/
theorem InOrder.anchor_eq_of_mem (horder : file.InOrder) {other : NodeStart}
    (hanchor : ∃ token ∈ file.code, token.start = (file.anchor start).1)
    (hother : ∃ token ∈ file.code, token.start = (file.anchor other).1)
    (hcomment : comment ∈ file.commentsBefore start)
    (hshared : comment ∈ file.commentsBefore other) :
    (file.anchor start).1 = (file.anchor other).1 := by
  have hle : ∀ {left right : NodeStart},
      (∃ token ∈ file.code, token.start = (file.anchor right).1) →
      comment ∈ file.commentsBefore left → comment ∈ file.commentsBefore right →
      (file.anchor left).1 ≤ (file.anchor right).1 := by
    intro left right hright hcomment hshared
    obtain ⟨token, htoken, hstart⟩ := hright
    obtain ⟨before, after, hbetween, -⟩ := horder.exists_anchoredBetween right
    obtain ⟨-, hplace, -⟩ := hbetween.mem_commentsBefore.mp hshared
    rw [← hstart] at hplace ⊢
    exact horder.anchor_le hcomment htoken hplace
  exact le_antisymm (hle hother hcomment hshared) (hle hanchor hshared hcomment)

/-- The comments of a node that is anchored at a code token. -/
theorem InOrder.mem_commentsBefore_iff (horder : file.InOrder) {token : Token}
    (hanchored : file.AnchoredAt start before token) (hcomment : comment ∈ file.comments) :
    comment ∈ file.commentsBefore start ↔ file.HasOwnLine comment ∧
      comment.start < token.start ∧ ∀ earlier ∈ before, ¬ comment.start < earlier.start := by
  obtain ⟨after, hbetween⟩ := hanchored.between horder
  have hplace : (file.anchor start).1 = token.start := by rw [hanchored.anchor]
  constructor
  · intro hmem
    refine ⟨horder.hasOwnLine hmem, ?_, ?_⟩
    · rw [← hplace]
      exact (hbetween.mem_commentsBefore.mp hmem).2.1
    · intro earlier hearlier hlt
      have hline := hbetween.stop_line_lt horder hmem hearlier
      have hextent := Position.line_le
        (horder.extent earlier (by simp [hbetween.code, hearlier]))
      exact absurd ((Position.line_le hlt.le).trans hextent) hline.not_ge
  · rintro ⟨hown, hlt, hfirst⟩
    refine hbetween.mem_commentsBefore.mpr ⟨hcomment, hplace ▸ hlt, ?_⟩
    intro previous hprevious
    have hmem : previous ∈ before := List.mem_of_getLast? hprevious
    have hcode : previous ∈ file.code := by simp [hbetween.code, hmem]
    apply hown previous hcode
    apply lt_of_le_of_ne (Position.not_lt_iff.mp (hfirst previous hmem))
    -- Code cannot start where the comment does.
    intro heq
    exact (horder.lineEnd comment hcomment previous hcode (by rw [heq])).ne heq

/-! ### The text of a leading comment -/

/-- A line of a file as the comments of a node show it: the comment that stands there, or
nothing if there is none in the file. -/
def ShowsLine (file : SourceFile) (start : NodeStart) (line : Nat) (text : String) : Prop :=
  (∃ comment ∈ file.commentsBefore start, comment.start.line = line ∧ text = comment.text) ∨
    (∀ comment ∈ file.comments, comment.start.line ≠ line) ∧ text = ""

/-- A comment in a line between two comments of a node is a comment of the node. -/
theorem InOrder.mem_of_between (horder : file.InOrder) {first last : Comment}
    (hfirst : first ∈ file.commentsBefore start) (hlast : last ∈ file.commentsBefore start)
    (hcomment : comment ∈ file.comments) (hge : first.start.line ≤ comment.start.line)
    (hle : comment.start.line ≤ last.start.line) : comment ∈ file.commentsBefore start := by
  obtain ⟨before, after, hbetween, -⟩ := horder.exists_anchoredBetween start
  obtain ⟨-, -, hprevious⟩ := hbetween.mem_commentsBefore.mp hfirst
  obtain ⟨hlastMem, hplace, -⟩ := hbetween.mem_commentsBefore.mp hlast
  refine hbetween.mem_commentsBefore.mpr ⟨hcomment, ?_, ?_⟩
  · rcases Nat.lt_or_eq_of_le hle with hlt | heq
    · exact (Position.lt_iff.mpr (.inl hlt)).trans hplace
    · have hsame : comment = last :=
        List.inj_on_of_nodup_map horder.oneComment hcomment hlastMem heq
      rwa [hsame]
  · intro previous hmem
    exact (hprevious previous hmem).trans_le hge

/-- A line has the text of a comment that starts there, or no comment. -/
theorem commentAt_eq (comments : List Comment) (line : Nat) :
    (∃ comment ∈ comments, comment.start.line = line ∧
        commentAt comments line = comment.text) ∨
      (∀ comment ∈ comments, comment.start.line ≠ line) ∧ commentAt comments line = "" := by
  unfold commentAt
  cases hfind : comments.reverse.find? (·.start.line = line) with
  | none =>
      refine .inr ⟨?_, rfl⟩
      intro comment hcomment
      simpa using List.find?_eq_none.mp hfind comment (List.mem_reverse.mpr hcomment)
  | some comment =>
      refine .inl ⟨comment, ?_, ?_, rfl⟩
      · exact List.mem_reverse.mp (List.mem_of_find?_eq_some hfind)
      · simpa using List.find?_some hfind

/-- The lines of a leading comment are those of the file from its first comment to its
last one. -/
theorem InOrder.leadingComment_lines (horder : file.InOrder) {leading : LeadingComment}
    (hleading : file.leadingComment start = some leading) :
    ∃ first ∈ (file.commentsBefore start).head?, ∃ last ∈ (file.commentsBefore start).getLast?,
      leading.line = first.start.line - 1 ∧
      ∃ lines, leading.text = "\n".intercalate lines ∧
        lines.length = last.start.line + 1 - first.start.line ∧
        ∀ index text, lines[index]? = some text →
          file.ShowsLine start (first.start.line + index) text := by
  unfold leadingComment at hleading
  dsimp only at hleading
  split at hleading
  · rename_i first last hfirst hlast
    cases hleading
    refine ⟨first, hfirst, last, hlast, rfl, _, rfl, by simp, ?_⟩
    intro index text hindex
    simp only [List.getElem?_map, Option.map_eq_some_iff] at hindex
    obtain ⟨line, hline, rfl⟩ := hindex
    obtain ⟨hlt, rfl⟩ : index < last.start.line + 1 - first.start.line ∧
        first.start.line + index = line := by
      rw [List.getElem?_eq_some_iff] at hline
      obtain ⟨hlt, heq⟩ := hline
      simpa using And.intro hlt heq
    apply (commentAt_eq (file.commentsBefore start) (first.start.line + index)).imp_right
    rintro ⟨hnone, htext⟩
    constructor
    · -- The comments of the node are all that the file has in these lines.
      intro comment hcomment hat
      apply hnone comment _ hat
      apply horder.mem_of_between (List.mem_of_mem_head? hfirst)
        (List.mem_of_getLast? hlast) hcomment
      · omega
      · omega
    · exact htext
  · cases hleading

theorem leadingComment_eq_none :
    file.leadingComment start = none ↔ file.commentsBefore start = [] := by
  rw [leadingComment]
  cases hcomments : file.commentsBefore start with
  | nil => simp
  | cons first rest => simp [List.getLast?_cons]

/-- Every comment belongs to one place.  Nodes that are anchored at different code tokens
share no comment.  A comment is one of a node if it has its line to itself and the
anchor of the node is the first code after it.  The text of the comments has the lines
of the file. -/
theorem leadingComment_belongs (horder : file.InOrder) :
    (∀ start other : NodeStart,
      (∃ token ∈ file.code, token.start = (file.anchor start).1) →
      (∃ token ∈ file.code, token.start = (file.anchor other).1) →
      (file.anchor start).1 ≠ (file.anchor other).1 →
      ∀ comment ∈ file.commentsBefore start, comment ∉ file.commentsBefore other) ∧
    (∀ start : NodeStart, (∃ token ∈ file.code, token.start = (file.anchor start).1) →
      ∃ before token, file.AnchoredAt start before token) ∧
    (∀ start before token, file.AnchoredAt start before token →
      ∀ comment ∈ file.comments, comment ∈ file.commentsBefore start ↔
        file.HasOwnLine comment ∧ comment.start < token.start ∧
          ∀ earlier ∈ before, ¬ comment.start < earlier.start) ∧
    (∀ start : NodeStart, file.leadingComment start = none ↔ file.commentsBefore start = []) ∧
    ∀ start leading, file.leadingComment start = some leading →
      ∃ first ∈ (file.commentsBefore start).head?, ∃ last ∈ (file.commentsBefore start).getLast?,
        leading.line = first.start.line - 1 ∧
        ∃ lines, leading.text = "\n".intercalate lines ∧
          lines.length = last.start.line + 1 - first.start.line ∧
          ∀ index text, lines[index]? = some text →
            file.ShowsLine start (first.start.line + index) text := by
  refine ⟨?_, ?_, ?_, fun start => leadingComment_eq_none, ?_⟩
  · intro start other hanchor hother hne comment hcomment hshared
    exact hne (horder.anchor_eq_of_mem hanchor hother hcomment hshared)
  · intro start hanchor
    exact horder.exists_anchoredAt hanchor
  · intro start before token hanchored comment hcomment
    exact horder.mem_commentsBefore_iff hanchored hcomment
  · intro start leading hleading
    exact horder.leadingComment_lines hleading

/-- A file with a text over two lines, a trailing comment after it, and comments with a gap
in front of a decorator. -/
def decoratedFile : SourceFile where
  path := ⟨"", ["app.py"]⟩
  lines := ["x = \"\"\"a", "b\"\"\" # Trailing", "# First", "", "# Second", "@get", "# Other",
    "def f(): ..."]
  module := []
  comments := [⟨⟨2, 5⟩, "# Trailing"⟩, ⟨⟨3, 0⟩, "# First"⟩, ⟨⟨5, 0⟩, "# Second"⟩,
    ⟨⟨7, 0⟩, "# Other"⟩]
  code := [
    ⟨.name "x", ⟨1, 0⟩, ⟨1, 1⟩, 0⟩,
    ⟨.symbol "=", ⟨1, 2⟩, ⟨1, 3⟩, 2⟩,
    ⟨.string ⟨false, false, false, false, 3, "a\nb".toList⟩, ⟨1, 4⟩, ⟨2, 4⟩, 4⟩,
    ⟨.symbol "@", ⟨6, 0⟩, ⟨6, 1⟩, 0⟩,
    ⟨.name "get", ⟨6, 1⟩, ⟨6, 4⟩, 1⟩,
    ⟨.name "def", ⟨8, 0⟩, ⟨8, 3⟩, 0⟩]

theorem decoratedFile_inOrder : decoratedFile.InOrder where
  extent := by decide
  sequence := by decide
  lineEnd := by decide
  oneComment := by decide

/-- The decorator and the definition under it are anchored at different tokens. -/
theorem leadingComment_belongs_decorated :
    decoratedFile.leadingComment ⟨6, 1⟩ = some ⟨2, "# First\n\n# Second"⟩ ∧
      ∀ comment ∈ decoratedFile.commentsBefore ⟨6, 1⟩,
        comment ∉ decoratedFile.commentsBefore ⟨8, 0⟩ :=
  ⟨by decide, (leadingComment_belongs decoratedFile_inOrder).1 ⟨6, 1⟩ ⟨8, 0⟩
    ⟨⟨.symbol "@", ⟨6, 0⟩, ⟨6, 1⟩, 0⟩, by decide, by decide⟩
    ⟨⟨.name "def", ⟨8, 0⟩, ⟨8, 3⟩, 0⟩, by decide, by decide⟩ (by decide)⟩

end SourceFile

end RouteScribe.Source
