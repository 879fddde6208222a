import RouteScribe.Proofs.Comment.Sections

/-!
# The parts of a documentation comment

A comment is divided into the lines before its first tag line and one part for each tag
line, which goes on up to the next.  The parts follow each other without a gap, so each line
of the comment belongs to one of them.  There are no parts at all if every line is made of
marks with blanks around them.
-/

namespace RouteScribe.Comment

open RouteScribe.Text

/-! ### Lines of marks -/

/-- A line of marks with blanks around them. -/
def OnlyMarks (line : List Char) : Prop :=
  ∃ front marks back, line = front ++ (marks ++ back) ∧ (∀ c ∈ front, isBlank c) ∧
    (∀ c ∈ marks, c = '#') ∧ ∀ c ∈ back, isBlank c

section Marks

variable {line rest : List Char}

theorem isBlankText_iff {text : List Char} : isBlankText text ↔ ∀ c ∈ text, isBlank c :=
  List.all_eq_true

theorem isBlankText_iff_trimEnd {text : List Char} : isBlankText text ↔ trimEnd text = [] :=
  isBlankText_iff.trans List.rdropWhile_eq_nil_iff.symm

theorem isBlankText_trimEnd {text : List Char} : isBlankText (trimEnd text) ↔ isBlankText text := by
  rw [isBlankText_iff_trimEnd, trimEnd_trimEnd, isBlankText_iff_trimEnd]

/-- The space after the marks of a line does not matter for whether the rest is blank. -/
theorem isBlankText_stripMarks_of_mark (hmark : trimStart line = '#' :: rest) :
    isBlankText (stripMarks line) ↔ isBlankText (rest.dropWhile (· = '#')) := by
  unfold stripMarks
  simp only [hmark]
  split
  · rename_i content hcontent
    rw [isBlankText_trimEnd, hcontent, isBlankText_iff, isBlankText_iff, List.forall_mem_cons]
    exact (and_iff_right isBlank_space).symm
  · exact isBlankText_trimEnd

theorem stripMarks_of_no_mark (hmark : (trimStart line).head? ≠ some '#') :
    stripMarks line = trimEnd (trimStart line) := by
  rw [stripMarks]
  split
  · rename_i hline
    rw [hline] at hmark
    exact absurd rfl hmark
  · rfl

/-- A line that is blank without its marks has nothing but marks. -/
theorem onlyMarks_of_isBlankText (hblank : isBlankText (stripMarks line)) : OnlyMarks line := by
  have hline : line.takeWhile isBlank ++ trimStart line = line := List.takeWhile_append_dropWhile
  have hfront : ∀ c ∈ line.takeWhile isBlank, isBlank c := fun c => List.mem_takeWhile_imp
  by_cases hmark : (trimStart line).head? = some '#'
  · obtain ⟨rest, hrest⟩ := List.head?_eq_some_iff.mp hmark
    rw [isBlankText_stripMarks_of_mark hrest, isBlankText_iff] at hblank
    refine ⟨_, '#' :: rest.takeWhile (· = '#'), _, ?_, hfront, ?_, hblank⟩
    · rw [List.cons_append, List.takeWhile_append_dropWhile, ← hrest, hline]
    · intro c hc
      rcases List.mem_cons.mp hc with rfl | hc
      · rfl
      · simpa using List.mem_takeWhile_imp hc
  · rw [stripMarks_of_no_mark hmark, isBlankText_trimEnd, isBlankText_iff] at hblank
    exact ⟨_, [], _, hline.symm, hfront, List.forall_mem_nil _, hblank⟩

/-- A line of marks only is blank without them. -/
theorem isBlankText_of_onlyMarks (hline : OnlyMarks line) : isBlankText (stripMarks line) := by
  obtain ⟨front, marks, back, rfl, hfront, hmarks, hback⟩ := hline
  rw [stripMarks_append_of_blank hfront]
  cases marks with
  | nil =>
      have hstart : trimStart back = [] := List.dropWhile_eq_nil_iff.mpr hback
      rw [List.nil_append, stripMarks_of_no_mark (by simp [hstart]), hstart]
      rfl
  | cons mark marks =>
      rw [List.forall_mem_cons] at hmarks
      obtain ⟨rfl, hmarks⟩ := hmarks
      have hstart := trimStart_of_not_blank (by decide : isBlank '#' = false) (marks ++ back)
      rw [List.cons_append, isBlankText_stripMarks_of_mark hstart,
        List.dropWhile_append_of_pos (by simpa using hmarks), isBlankText_iff]
      intro c hc
      exact hback c ((List.dropWhile_sublist _).subset hc)

theorem isBlankText_stripMarks_iff : isBlankText (stripMarks line) ↔ OnlyMarks line :=
  ⟨onlyMarks_of_isBlankText, isBlankText_of_onlyMarks⟩

end Marks

/-! ### Lines between two numbers -/

/-- The lines from one number up to another. -/
def linesBetween (lines : List (List Char)) (start stop : Nat) : List (List Char) :=
  (lines.take stop).drop start

section Between

variable {lines : List (List Char)} {start stop : Nat} {content : List Char}

theorem linesBetween_self (lines : List (List Char)) (number : Nat) :
    linesBetween lines number number = [] :=
  List.drop_eq_nil_of_le (List.length_take_le _ _)

theorem linesBetween_eq_cons (hcontent : lines[start]? = some content) (hstop : start < stop) :
    linesBetween lines start stop = content :: linesBetween lines (start + 1) stop := by
  rw [← List.getElem?_take_of_lt hstop] at hcontent
  obtain ⟨hlength, rfl⟩ := List.getElem?_eq_some_iff.mp hcontent
  exact List.drop_eq_getElem_cons hlength

end Between

/-! ### Arrangements of sections -/

/-- From a line on, some lines are free and the others make up sections: a line that is no
tag line is free, and a tag line takes the lines that are free after it. -/
inductive Arranged (lines : List (List Char)) : Nat → List (List Char) → List Section → Prop where
  | finish : Arranged lines lines.length [] []
  | free {number : Nat} {content : List Char} {free : List (List Char)} {sections : List Section}
      (hcontent : lines[number]? = some content) (hfree : tagLine? (trim content) = none)
      (hrest : Arranged lines (number + 1) free sections) :
      Arranged lines number (content :: free) sections
  | tag {number : Nat} {content kind body : List Char} {following : List (List Char)}
      {sections : List Section} (hcontent : lines[number]? = some content)
      (htag : tagLine? (trim content) = some (kind, body))
      (hrest : Arranged lines (number + 1) following sections) :
      Arranged lines number []
        ({ line := number, head := trim content, kind, body, following } :: sections)

/-- Cutting the rest of the lines arranges them, whatever stood before. -/
theorem arranged_splitSections {lines contents : List (List Char)} {number : Nat}
    (hnumber : number + contents.length = lines.length) (hcontents : lines.drop number = contents) :
    Arranged lines number (splitSections number contents).1 (splitSections number contents).2 := by
  induction contents generalizing number with
  | nil =>
      obtain rfl : number = lines.length := hnumber
      exact .finish
  | cons content rest ih =>
      have hcontent : lines[number]? = some content := by
        rw [← List.head?_drop, hcontents, List.head?_cons]
      have hdrop : lines.drop (number + 1) = rest := by
        rw [← List.tail_drop, hcontents, List.tail_cons]
      have hrest := ih (by rw [List.length_cons] at hnumber; omega) hdrop
      cases htag : tagLine? (trim content) with
      | none =>
          rw [splitSections, htag]
          exact .free hcontent htag hrest
      | some parts =>
          rw [splitSections, htag]
          exact .tag hcontent htag hrest

/-- The number of the line where the first of some parts starts, or where the comment ends. -/
def firstLine (lines : List (List Char)) (starts : List Nat) : Nat :=
  starts.head?.getD lines.length

/-- The lines of the parts that start at some numbers: each goes on up to the next. -/
def parts (lines : List (List Char)) : List Nat → List (List (List Char))
  | [] => []
  | start :: starts => linesBetween lines start (firstLine lines starts) :: parts lines starts

namespace Arranged

variable {lines free : List (List Char)} {number : Nat} {sections : List Section}

theorem le_firstLine (harranged : Arranged lines number free sections) :
    number ≤ firstLine lines (sections.map Section.line) := by
  induction harranged with
  | finish => exact le_rfl
  | free _ _ _ ih => exact (Nat.le_succ _).trans ih
  | tag => exact le_rfl

theorem free_eq (harranged : Arranged lines number free sections) :
    free = linesBetween lines number (firstLine lines (sections.map Section.line)) := by
  induction harranged with
  | finish => exact (linesBetween_self lines _).symm
  | free hcontent _ hrest ih =>
      rw [linesBetween_eq_cons hcontent (Nat.lt_of_succ_le hrest.le_firstLine), ← ih]
  | tag => exact (linesBetween_self lines _).symm

/-- The sections start at the tag lines. -/
theorem mem_lines_iff (harranged : Arranged lines number free sections) (index : Nat) :
    index ∈ sections.map Section.line ↔ number ≤ index ∧
      ∃ content, lines[index]? = some content ∧ (tagLine? (trim content)).isSome := by
  have hnext : ∀ number, number ≤ index ↔ index = number ∨ number + 1 ≤ index := by
    intro number
    omega
  induction harranged with
  | finish =>
      constructor
      · intro hindex
        cases hindex
      · rintro ⟨hindex, content, hcontent, -⟩
        rw [List.getElem?_eq_none hindex] at hcontent
        cases hcontent
  | @free number content _ _ hcontent hfree _ ih =>
      apply ih.trans
      rw [hnext number, or_and_right, or_iff_right]
      rintro ⟨rfl, found, hfound, htag⟩
      rw [hcontent] at hfound
      cases hfound
      rw [hfree] at htag
      cases htag
  | @tag number content _ _ _ _ hcontent htag _ ih =>
      rw [List.map_cons, List.mem_cons, hnext number, or_and_right]
      apply or_congr ?_ ih
      constructor
      · rintro rfl
        exact ⟨rfl, content, hcontent, by rw [htag]; rfl⟩
      · exact And.left

theorem pairwise_lines (harranged : Arranged lines number free sections) :
    (sections.map Section.line).Pairwise (· < ·) := by
  induction harranged with
  | finish => exact .nil
  | free _ _ _ ih => exact ih
  | tag _ _ hrest ih =>
      apply List.Pairwise.cons ?_ ih
      intro index hindex
      exact Nat.lt_of_succ_le ((hrest.mem_lines_iff index).mp hindex).1

/-- A section has the text of its line and the lines up to the next section. -/
theorem section_eq (harranged : Arranged lines number free sections)
    {before after : List Section} {part : Section} (hsplit : sections = before ++ part :: after) :
    ∃ content, lines[part.line]? = some content ∧ part.head = trim content ∧
      part.following =
        linesBetween lines (part.line + 1) (firstLine lines (after.map Section.line)) := by
  induction harranged generalizing before with
  | finish => simp at hsplit
  | free _ _ _ ih => exact ih hsplit
  | tag hcontent _ hrest ih =>
      cases before with
      | nil =>
          obtain ⟨rfl, rfl⟩ := List.cons.inj hsplit
          exact ⟨_, hcontent, rfl, hrest.free_eq⟩
      | cons first before => exact ih (List.cons.inj hsplit).2

/-- The free lines and the lines of all parts are the lines from the first one on. -/
theorem append_flatten_parts (harranged : Arranged lines number free sections) :
    free ++ (parts lines (sections.map Section.line)).flatten = lines.drop number := by
  have hdrop : ∀ {number : Nat} {content : List Char}, lines[number]? = some content →
      lines.drop number = content :: lines.drop (number + 1) := by
    intro number content hcontent
    obtain ⟨hlength, rfl⟩ := List.getElem?_eq_some_iff.mp hcontent
    exact List.drop_eq_getElem_cons hlength
  induction harranged with
  | finish => exact (List.drop_length).symm
  | free hcontent _ _ ih => rw [hdrop hcontent, ← ih, List.cons_append]
  | tag hcontent _ hrest ih =>
      rw [hdrop hcontent, ← ih, List.map_cons, parts, List.flatten_cons,
        linesBetween_eq_cons hcontent (Nat.lt_of_succ_le hrest.le_firstLine), ← hrest.free_eq]
      rfl

end Arranged

/-! ### The heading -/

theorem trim_eq_nil_iff {text : List Char} : trim text = [] ↔ isBlankText text := by
  have hline : text.takeWhile isBlank ++ trimStart text = text := List.takeWhile_append_dropWhile
  have hfront : ∀ c ∈ text.takeWhile isBlank, isBlank c := fun c => List.mem_takeWhile_imp
  rw [trim, ← isBlankText_iff_trimEnd, isBlankText_iff, isBlankText_iff]
  constructor
  · intro hblank
    rw [← hline]
    exact List.forall_mem_append.mpr ⟨hfront, hblank⟩
  · intro hblank c hc
    exact hblank c ((List.dropWhile_sublist _).subset hc)

/-- A trimmed text starts with a character that is not blank. -/
theorem isBlank_head_of_trim {text : List Char} :
    ∀ c ∈ (trim text).head?, isBlank c = false := by
  intro c hc
  have hstart : trimStart (trimStart text) = trimStart text := List.dropWhile_idempotent _ _
  exact isBlank_head_of_trimStart hstart c (mem_head_of_trimEnd hc)

/-- A trimmed text with a blank first line is empty. -/
theorem trim_eq_nil_of_firstLine {text : List Char}
    (hfirst : trim ((trim text).takeWhile (· != '\n')) = []) : trim text = [] := by
  cases htext : trim text with
  | nil => rfl
  | cons c rest =>
      have hc : isBlank c = false := isBlank_head_of_trim c (by rw [htext]; rfl)
      have hne : c ≠ '\n' := by
        rintro rfl
        cases hc
      rw [htext, trim_eq_nil_iff, isBlankText_iff] at hfirst
      have hblank := hfirst c (by simp [hne])
      rw [hc] at hblank
      cases hblank

/-- The text before the first tag, without shared indentation and blanks around it. -/
def headingText (free : List (List Char)) : List Char :=
  trim (dedent (joinLines free))

theorem splitHeading_eq (free : List (List Char)) :
    splitHeading free = (trim ((headingText free).takeWhile (· != '\n')),
      trim (((headingText free).dropWhile (· != '\n')).drop 1)) := by
  simp only [splitHeading, splitFirstLine, headingText]
  split <;> rename_i hrest <;> simp [hrest]

/-! ### The parts of a comment -/

/-- The numbers of the lines where the tags of a comment start. -/
def DocComment.starts (comment : DocComment) : List Nat :=
  comment.tags.map Tag.line

/-- The lines before the first tag of a comment. -/
def DocComment.opening (comment : DocComment) (lines : List (List Char)) : List (List Char) :=
  lines.take (firstLine lines comment.starts)

/-- A comment divides lines into its heading and its tags. -/
structure DocComment.Divides (comment : DocComment) (lines : List (List Char)) : Prop where
  increasing : comment.starts.Pairwise (· < ·)
  /-- The tags start at the tag lines. -/
  numbers : ∀ number, number ∈ comment.starts ↔
    ∃ content, lines[number]? = some content ∧ (tagLine? (trim content)).isSome
  /-- A tag has its own line, trimmed, and the lines up to the next tag or the end. -/
  sources : ∀ before tag after, comment.tags = before ++ tag :: after →
    ∃ content, lines[tag.line]? = some content ∧
      tag.source.toList = trimEnd (joinLines (trim content ::
        linesBetween lines (tag.line + 1) (firstLine lines (after.map Tag.line))))
  title : comment.title.toList =
    trim ((headingText (comment.opening lines)).takeWhile (· != '\n'))
  description : comment.description.toList =
    trim (((headingText (comment.opening lines)).dropWhile (· != '\n')).drop 1)
  /-- The lines of all parts, one after the other, are the lines of the comment. -/
  complete : comment.opening lines ++ (parts lines comment.starts).flatten = lines
  unbroken : '\n' ∉ comment.title.toList
  untitled : comment.title = "" → comment.description = ""

def DocComment.ofSections (free : List (List Char)) (sections : List Section) : DocComment where
  title := .ofList (splitHeading free).1
  description := .ofList (splitHeading free).2
  tags := sections.map Section.toTag

theorem DocComment.parse?_eq (text : String) :
    parse? text = if (contentLines text.toList).all isBlankText then none
      else some (ofSections (splitSections 0 (contentLines text.toList)).1
        (splitSections 0 (contentLines text.toList)).2) := by
  simp only [parse?, ofSections]

theorem starts_ofSections (free : List (List Char)) (sections : List Section) :
    (DocComment.ofSections free sections).starts = sections.map Section.line :=
  List.map_map

/-- An arrangement of all lines divides them among the comment's parts. -/
theorem Arranged.divides {lines free : List (List Char)} {sections : List Section}
    (harranged : Arranged lines 0 free sections) :
    (DocComment.ofSections free sections).Divides lines := by
  have hopening : (DocComment.ofSections free sections).opening lines = free := by
    rw [DocComment.opening, starts_ofSections, harranged.free_eq]
    rfl
  have htitle : (DocComment.ofSections free sections).title.toList =
      trim ((headingText free).takeWhile (· != '\n')) := by
    rw [DocComment.ofSections, String.toList_ofList, splitHeading_eq]
  have hdescription : (DocComment.ofSections free sections).description.toList =
      trim (((headingText free).dropWhile (· != '\n')).drop 1) := by
    rw [DocComment.ofSections, String.toList_ofList, splitHeading_eq]
  constructor
  · rw [starts_ofSections]
    exact harranged.pairwise_lines
  · intro number
    rw [starts_ofSections, harranged.mem_lines_iff]
    exact and_iff_right (Nat.zero_le number)
  · intro before tag after htags
    obtain ⟨front, others, rfl, -, hothers⟩ := List.map_eq_append_iff.mp htags
    obtain ⟨part, rest, rfl, rfl, rfl⟩ := List.map_eq_cons_iff.mp hothers
    obtain ⟨content, hcontent, hhead, hfollowing⟩ := harranged.section_eq rfl
    refine ⟨content, hcontent, ?_⟩
    rw [List.map_map]
    rw [Section.toTag, String.toList_ofList, hhead, hfollowing]
    rfl
  · rw [hopening]
    exact htitle
  · rw [hopening]
    exact hdescription
  · rw [hopening, starts_ofSections, harranged.append_flatten_parts, List.drop_zero]
  · rw [htitle]
    intro hmem
    simpa using List.mem_takeWhile_imp (trim_subset _ hmem)
  · intro hempty
    rw [hempty] at htitle
    have hnil : headingText free = [] := trim_eq_nil_of_firstLine htitle.symm
    rw [hnil] at hdescription
    exact String.toList_injective hdescription

/-- A comment is refused if and only if all its lines are marks with blanks around them.
Otherwise its lines are divided into a heading and the parts of its tags. -/
theorem parse?_divides (text : String) :
    (DocComment.parse? text = none ↔ ∀ line ∈ splitLines text.toList, OnlyMarks line) ∧
      ∀ comment, DocComment.parse? text = some comment →
        comment.Divides (contentLines text.toList) := by
  have hblank : (contentLines text.toList).all isBlankText ↔
      ∀ line ∈ splitLines text.toList, OnlyMarks line := by
    rw [contentLines, List.all_map, List.all_eq_true]
    exact forall₂_congr fun line _ => isBlankText_stripMarks_iff
  rw [DocComment.parse?_eq, ← hblank]
  split
  · rename_i hall
    refine ⟨iff_of_true rfl hall, ?_⟩
    intro comment hcomment
    cases hcomment
  · rename_i hsome
    refine ⟨iff_of_false (by simp) hsome, ?_⟩
    intro comment hcomment
    obtain rfl := Option.some.inj hcomment
    exact (arranged_splitSections (Nat.zero_add _) List.drop_zero).divides

/-- A comment with a gap, a line that goes on a tag and a tag without further lines. -/
def greetingText : String :=
  "# Greet\n#\n#   Say hello.\n\n# @response 200 fine\n#   Hello!\n#\n# @query lang"

def greetingComment : DocComment :=
  { title := "Greet"
    description := "Say hello."
    tags :=
      [{ kind := "response", type := none, name := "200", inline := "fine"
         continuation := "Hello!", line := 4, source := "@response 200 fine\n  Hello!" },
       { kind := "query", type := none, name := "lang", inline := "", continuation := ""
         line := 7, source := "@query lang" }] }

theorem parse?_divides_greeting :
    DocComment.parse? greetingText = some greetingComment ∧
      greetingComment.Divides (contentLines greetingText.toList) := by
  have hparse : DocComment.parse? greetingText = some greetingComment := by
    decide +kernel
  exact ⟨hparse, (parse?_divides greetingText).2 greetingComment hparse⟩

end RouteScribe.Comment
