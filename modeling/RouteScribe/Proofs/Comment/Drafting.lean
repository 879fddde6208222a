import RouteScribe.Proofs.Comment.TagLine

/-!
# Writing and reading comments

A comment is written as a title, a description and tags, with blank lines around the
title if one likes.  The parts of a comment that is written in this way are told apart by
its tag lines, so that reading the comment gives them back.  Two things are not told apart
when they are read: a comment without title and tags is none, and a type in empty
braces is none either.
-/

namespace RouteScribe.Comment

open RouteScribe.Text

/-- The parts of a comment in a form in which they can be written. -/
structure CommentDraft where
  title : List Char
  /-- The lines of the description. -/
  description : List (List Char)
  tags : List TagDraft
  titleTrimmed : trim title = title
  titleUnbroken : Unbroken title
  titleFree : tagLine? title = none
  linesTrimmed : ∀ line ∈ description, trimEnd line = line
  linesUnbroken : ∀ line ∈ description, Unbroken line
  linesFree : ∀ line ∈ description, tagLine? (trim line) = none
  descriptionTrimmed : trim (joinLines description) = joinLines description
  description_of_title : title = [] → description = []

/-- The numbers of blank lines above the title, between title and description, and below
them. -/
structure Spacing where
  above : Nat
  between : Nat
  below : Nat

def marked (content : List Char) : List Char :=
  '#' :: ' ' :: content

namespace CommentDraft

/-- The lines from the title to the end of the description. -/
def headingCore (draft : CommentDraft) (spacing : Spacing) : List (List Char) :=
  if draft.title = [] then []
  else draft.title :: (List.replicate spacing.between [] ++ draft.description)

/-- The lines in front of the first tag. -/
def heading (draft : CommentDraft) (spacing : Spacing) : List (List Char) :=
  List.replicate spacing.above [] ++ draft.headingCore spacing ++ List.replicate spacing.below []

def lines (draft : CommentDraft) (spacing : Spacing) : List (List Char) :=
  (draft.heading spacing ++ draft.tags.flatMap TagDraft.lines).map marked

def text (draft : CommentDraft) (spacing : Spacing) : String :=
  .ofList (joinLines (draft.lines spacing))

/-- The tags of a comment, where the first one stands in the given line. -/
def tagsFrom : Nat → List TagDraft → List Tag
  | _, [] => []
  | line, tag :: tags => tag.toTag line :: tagsFrom (line + tag.lines.length) tags

def comment (draft : CommentDraft) (spacing : Spacing) : DocComment :=
  { title := .ofList draft.title
    description := .ofList (joinLines draft.description)
    tags := tagsFrom (draft.heading spacing).length draft.tags }

/-! ### The heading -/

variable (draft : CommentDraft) (spacing : Spacing)

theorem mem_headingCore {line : List Char} (hline : line ∈ draft.headingCore spacing) :
    line = draft.title ∨ line = [] ∨ line ∈ draft.description := by
  unfold headingCore at hline
  split at hline
  · cases hline
  · rcases List.mem_cons.mp hline with rfl | hmem
    · exact .inl rfl
    · exact .inr ((List.mem_append.mp hmem).imp_left List.eq_of_mem_replicate)

theorem mem_heading {line : List Char} (hline : line ∈ draft.heading spacing) :
    line = draft.title ∨ line = [] ∨ line ∈ draft.description := by
  rcases List.mem_append.mp hline with hfront | hbelow
  · rcases List.mem_append.mp hfront with habove | hcore
    · exact .inr (.inl (List.eq_of_mem_replicate habove))
    · exact draft.mem_headingCore spacing hcore
  · exact .inr (.inl (List.eq_of_mem_replicate hbelow))

theorem unbroken_of_mem_heading : ∀ line ∈ draft.heading spacing, Unbroken line := by
  intro line hline
  rcases draft.mem_heading spacing hline with rfl | rfl | hmem
  · exact draft.titleUnbroken
  · exact List.forall_mem_nil _
  · exact draft.linesUnbroken line hmem

theorem trimEnd_of_mem_heading : ∀ line ∈ draft.heading spacing, trimEnd line = line := by
  intro line hline
  rcases draft.mem_heading spacing hline with rfl | rfl | hmem
  · exact (trim_eq_self_iff.mp draft.titleTrimmed).2
  · rfl
  · exact draft.linesTrimmed line hmem

theorem tagLine_of_mem_heading :
    ∀ line ∈ draft.heading spacing, tagLine? (trim line) = none := by
  intro line hline
  rcases draft.mem_heading spacing hline with rfl | rfl | hmem
  · rw [draft.titleTrimmed]
    exact draft.titleFree
  · rfl
  · exact draft.linesFree line hmem

theorem title_mem_heading (hne : draft.title ≠ []) : draft.title ∈ draft.heading spacing := by
  unfold heading headingCore
  simp [hne]

theorem eq_nil_of_mem_heading (hnone : draft.title = []) :
    ∀ line ∈ draft.heading spacing, line = [] := by
  intro line hline
  rcases draft.mem_heading spacing hline with rfl | rfl | hmem
  · exact hnone
  · rfl
  · rw [draft.description_of_title hnone] at hmem
    cases hmem

/-- The title has no indentation, so none is removed from the lines below it. -/
theorem sharedIndent_heading : sharedIndent (draft.heading spacing) = [] := by
  by_cases hne : draft.title = []
  · exact sharedIndent_of_empty (draft.eq_nil_of_mem_heading spacing hne)
  · exact sharedIndent_eq_nil (draft.title_mem_heading spacing hne) hne
      (takeWhile_isIndent (trim_eq_self_iff.mp draft.titleTrimmed).1)

theorem trim_dedent_heading :
    trim (dedent (joinLines (draft.heading spacing))) =
      trim (joinLines (draft.headingCore spacing)) := by
  have hunbroken : ∀ line ∈ draft.heading spacing, '\n' ∉ line :=
    fun line hline => (draft.unbroken_of_mem_heading spacing line hline).not_mem
  rw [dedent_joinLines hunbroken,
    dedentLines_eq_self (draft.trimEnd_of_mem_heading spacing) (draft.sharedIndent_heading spacing),
    heading, trim_joinLines_append_replicate, trim_joinLines_replicate_append]

/-- The lines below the title are the description, apart from blank ones. -/
theorem exists_joinLines_headingCore (hne : draft.title ≠ []) :
    ∃ rest, joinLines (draft.headingCore spacing) = draft.title ++ rest ∧
      (∀ c ∈ rest.head?, c = '\n') ∧ trim rest = joinLines draft.description := by
  have hdescription :
      trim (joinLines (List.replicate spacing.between [] ++ draft.description)) =
        joinLines draft.description := by
    rw [trim_joinLines_replicate_append, draft.descriptionTrimmed]
  rw [headingCore, if_neg hne]
  by_cases hnone : List.replicate spacing.between [] ++ draft.description = []
  · rw [hnone] at hdescription ⊢
    exact ⟨[], by simp [joinLines, joinWith], by simp, hdescription⟩
  · rw [joinLines_cons _ hnone]
    refine ⟨_, rfl, by simp, ?_⟩
    rw [trim_cons_of_blank isBlank_newline, hdescription]

/-- A written heading is split into its title and its description. -/
theorem splitHeading_heading :
    splitHeading (draft.heading spacing) = (draft.title, joinLines draft.description) := by
  rw [splitHeading, draft.trim_dedent_heading spacing]
  by_cases hne : draft.title = []
  · rw [headingCore, if_pos hne, draft.description_of_title hne, hne]
    rfl
  · obtain ⟨rest, hjoined, hhead, hrest⟩ := draft.exists_joinLines_headingCore spacing hne
    obtain ⟨hstart, hend⟩ := trim_eq_self_iff.mp draft.titleTrimmed
    have hprefix : ∀ c ∈ (trimEnd rest).head?, c = '\n' :=
      fun c hc => hhead c (mem_head_of_trimEnd hc)
    obtain ⟨hfirst, hsecond⟩ := splitFirstLine_append draft.titleUnbroken.not_mem hprefix
    rw [hjoined, trim, trimStart_append hstart hne, trimEnd_append hend]
    dsimp only
    rw [hfirst, hsecond, draft.titleTrimmed, trim_trimEnd, hrest]

/-! ### The sections -/

/-- Lines that were written for tags are cut into the sections of these tags. -/
theorem splitSections_tags (line : Nat) (tags : List TagDraft) :
    (splitSections line (tags.flatMap fun tag => tag.head :: tag.following)).1 = [] ∧
      (splitSections line (tags.flatMap fun tag => tag.head :: tag.following)).2.map
        Section.toTag = tagsFrom line tags := by
  induction tags generalizing line with
  | nil => exact ⟨rfl, rfl⟩
  | cons tag tags ih =>
      have htag : tagLine? (trim tag.head) = some (tag.kind, tag.body) := by
        rw [tag.trim_head, tag.tagLine_head]
      have hlength : line + 1 + tag.following.length = line + tag.lines.length := by
        simp only [TagDraft.following, TagDraft.lines, List.length_cons, List.length_map]
        omega
      obtain ⟨hfree, htags⟩ := ih (line + tag.lines.length)
      rw [List.flatMap_cons, List.cons_append, splitSections_cons htag,
        splitSections_append tag.tagLine_of_mem_following, hlength, hfree, List.append_nil,
        tag.trim_head]
      exact ⟨rfl, congrArg₂ List.cons (tag.toTag_section line) htags⟩

theorem unbroken_of_mem_lines : ∀ line ∈ draft.lines spacing, Unbroken line := by
  have hmark : Unbroken ['#', ' '] := by decide
  unfold lines
  rw [List.forall_mem_map]
  intro content hcontent
  apply hmark.append
  rcases List.mem_append.mp hcontent with hheading | htag
  · exact draft.unbroken_of_mem_heading spacing content hheading
  · obtain ⟨tag, -, hline⟩ := List.mem_flatMap.mp htag
    exact tag.unbroken_of_mem_lines content hline

/-- The lines of a written comment without their marks. -/
theorem contentLines_text : contentLines (draft.text spacing).toList =
    draft.heading spacing ++ draft.tags.flatMap fun tag => tag.head :: tag.following := by
  have hlast : (draft.lines spacing).getLast? ≠ some [] := by
    intro hnil
    have hmem := List.mem_of_getLast? hnil
    unfold lines at hmem
    obtain ⟨content, -, hmarked⟩ := List.mem_map.mp hmem
    cases hmarked
  have hheading : (draft.heading spacing).map trimEnd = draft.heading spacing :=
    (List.map_congr_left (draft.trimEnd_of_mem_heading spacing)).trans (List.map_id _)
  have hstrip : stripMarks ∘ marked = trimEnd := funext stripMarks_mark
  rw [contentLines, text, String.toList_ofList,
    splitLines_joinLines (draft.unbroken_of_mem_lines spacing) hlast, lines, List.map_map, hstrip,
    List.map_append, hheading, List.map_flatMap]
  simp only [TagDraft.map_trimEnd_lines]

/-- The lines are blank only if there is neither a title nor a tag. -/
theorem all_isBlankText_iff :
    (draft.heading spacing ++ draft.tags.flatMap fun tag => tag.head :: tag.following).all
        isBlankText ↔ draft.title = [] ∧ draft.tags = [] := by
  rw [List.all_eq_true]
  constructor
  · intro hall
    constructor
    · by_contra hne
      have hblank := hall _ (List.mem_append_left _ (draft.title_mem_heading spacing hne))
      rw [isBlankText_eq_false (trim_eq_self_iff.mp draft.titleTrimmed).1 hne] at hblank
      cases hblank
    · cases htags : draft.tags with
      | nil => rfl
      | cons tag tags =>
          have hmem : tag.head ∈ (tag :: tags).flatMap fun tag => tag.head :: tag.following := by
            simp
          have hblank := hall tag.head (List.mem_append_right _ (htags ▸ hmem))
          rw [isBlankText_eq_false (trim_eq_self_iff.mp tag.trim_head).1 (List.cons_ne_nil _ _)]
            at hblank
          cases hblank
  · rintro ⟨htitle, htags⟩ line hline
    rw [htags, List.flatMap_nil, List.append_nil] at hline
    rw [draft.eq_nil_of_mem_heading spacing htitle line hline]
    rfl

/-- A tag is found in the line where it was written. -/
theorem exists_line_of_tag (front : List (List Char)) {tags : List TagDraft} {index : Nat}
    {tag : TagDraft} (htag : tags[index]? = some tag) :
    ∃ line, (tagsFrom front.length tags)[index]? = some (tag.toTag line) ∧
      (front ++ tags.flatMap TagDraft.lines)[line]? = some tag.head := by
  induction tags generalizing front index with
  | nil => cases htag
  | cons first tags ih =>
      cases index with
      | zero =>
          obtain rfl := Option.some.inj htag
          exact ⟨front.length, rfl, by simp [TagDraft.lines]⟩
      | succ index =>
          have hlength : front.length + first.lines.length = (front ++ first.lines).length :=
            List.length_append.symm
          obtain ⟨line, hfound, hline⟩ := ih (front ++ first.lines) htag
          refine ⟨line, ?_, ?_⟩
          · rw [tagsFrom, hlength]
            exact hfound
          · rw [List.flatMap_cons, ← List.append_assoc]
            exact hline

/-- A comment that has been written is read back, with each tag on the line where it was
written.  A comment with neither a title nor a tag is none. -/
theorem parse_text :
    DocComment.parse? (draft.text spacing) =
        (if draft.title = [] ∧ draft.tags = [] then none else some (draft.comment spacing)) ∧
      ∀ (index : Nat) (tag : TagDraft), draft.tags[index]? = some tag →
        ∃ line, (draft.comment spacing).tags[index]? = some (tag.toTag line) ∧
          (draft.lines spacing)[line]? = some (marked tag.head) := by
  constructor
  · obtain ⟨hfree, htags⟩ := splitSections_tags (draft.heading spacing).length draft.tags
    have hsections := splitSections_append (draft.tagLine_of_mem_heading spacing) 0
      (draft.tags.flatMap fun tag => tag.head :: tag.following)
    rw [Nat.zero_add, hfree, List.append_nil] at hsections
    simp only [DocComment.parse?, draft.contentLines_text, draft.all_isBlankText_iff]
    by_cases hempty : draft.title = [] ∧ draft.tags = []
    · rw [if_pos hempty, if_pos hempty]
    · rw [if_neg hempty, if_neg hempty, hsections, draft.splitHeading_heading, htags]
      rfl
  · intro index tag htag
    obtain ⟨line, hfound, hline⟩ := exists_line_of_tag (draft.heading spacing) htag
    refine ⟨line, hfound, ?_⟩
    rw [lines, List.getElem?_map, hline]
    rfl

/-- A tag with a name in braces after its type, and with a continuation of which one line is
indented more than the other. -/
def listedTag : TagDraft where
  kind := "param".toList
  type := some "number".toList
  name := "\x7bids\x7d".toList
  inline := "which ones".toList
  continuation := ["at most ten,".toList, "  or all".toList]
  isKind := ⟨'p', "aram".toList, rfl, by decide, List.all_eq_true.mp (by decide)⟩
  typeBalanced := by
    rintro text ⟨⟩
    exact .of_noBrace (by decide) (by decide)
  typeTrimmed := by decide
  typeUnbroken := by decide
  isName := .inr ⟨rfl, "ids".toList, .of_noBrace (by decide) (by decide), by decide⟩
  nameUnbroken := by decide
  inlineTrimmed := by decide
  inlineUnbroken := by decide
  inline_of_name := nofun
  linesTrimmed := by decide
  linesUnbroken := by decide
  linesFree := by decide
  firstLine := by decide
  lastLine := by decide
  noIndent := by decide

/-- A comment with a description of several lines. -/
def listed : CommentDraft where
  title := "List users".toList
  description := ["By key:".toList, [], "  newest first".toList]
  tags := [listedTag]
  titleTrimmed := by decide
  titleUnbroken := by decide
  titleFree := by decide
  linesTrimmed := by decide
  linesUnbroken := by decide
  linesFree := by decide
  descriptionTrimmed := by decide
  description_of_title := nofun

example : listed.text ⟨0, 1, 0⟩ =
      "# List users\n# \n# By key:\n# \n#   newest first\n" ++
        "# @param \x7bnumber\x7d \x7bids\x7d which ones\n#   at most ten,\n#     or all" ∧
    DocComment.parse? (listed.text ⟨0, 1, 0⟩) = some
      { title := "List users"
        description := "By key:\n\n  newest first"
        tags := [{
          kind := "param"
          type := "number"
          name := "\x7bids\x7d"
          inline := "which ones"
          continuation := "at most ten,\n  or all"
          line := 5
          source :=
            "@param \x7bnumber\x7d \x7bids\x7d which ones\n  at most ten,\n    or all" }] } := by
  decide +kernel

/-- Reading a written comment gives all its parts back. -/
def ReadsBack (draft : CommentDraft) (spacing : Spacing) : Prop :=
  ∃ comment, DocComment.parse? (draft.text spacing) = some comment ∧
    comment.title = .ofList draft.title ∧
    comment.description = .ofList (joinLines draft.description) ∧
    comment.tags.map (fun tag => (tag.kind, tag.type, tag.name, tag.inline, tag.continuation)) =
      draft.tags.map fun tag => (.ofList tag.kind, tag.type.map .ofList, .ofList tag.name,
        .ofList tag.inline, .ofList (joinLines tag.continuation))

/-- A comment of one line without content. -/
def blank : CommentDraft where
  title := []
  description := []
  tags := []
  titleTrimmed := rfl
  titleUnbroken := by decide
  titleFree := rfl
  linesTrimmed := by simp
  linesUnbroken := by simp
  linesFree := by simp
  descriptionTrimmed := rfl
  description_of_title := fun _ => rfl

def bracedTag : TagDraft where
  kind := "response".toList
  type := some []
  name := "200".toList
  inline := []
  continuation := []
  isKind := ⟨'r', "esponse".toList, rfl, by decide, List.all_eq_true.mp (by decide)⟩
  typeBalanced := by simp [Balanced.nil]
  typeTrimmed := by simp [trim, trimStart]
  typeUnbroken := by simp [Unbroken]
  isName := .inl ⟨by simp [isBlank], by decide⟩
  nameUnbroken := by decide
  inlineTrimmed := rfl
  inlineUnbroken := by decide
  inline_of_name := fun _ => rfl
  linesTrimmed := by simp
  linesUnbroken := by simp
  linesFree := by simp
  firstLine := by simp
  lastLine := by simp
  noIndent := rfl

/-- A comment with a title and a tag with empty braces. -/
def braced : CommentDraft where
  title := "Title".toList
  description := []
  tags := [bracedTag]
  titleTrimmed := by decide
  titleUnbroken := by decide
  titleFree := by decide
  linesTrimmed := by simp
  linesUnbroken := by simp
  linesFree := by simp
  descriptionTrimmed := rfl
  description_of_title := fun _ => rfl

/-- A blank comment is none, and empty braces are no type. -/
theorem not_readsBack_blank_braced :
    (blank.text ⟨1, 0, 0⟩ = "# " ∧ ¬ blank.ReadsBack ⟨1, 0, 0⟩) ∧
      braced.text ⟨0, 0, 0⟩ = "# Title\n# @response \x7b\x7d 200" ∧
        ¬ braced.ReadsBack ⟨0, 0, 0⟩ := by
  refine ⟨⟨by decide, ?_⟩, by decide, ?_⟩
  · rintro ⟨comment, hparse, -⟩
    have hnone : DocComment.parse? (blank.text ⟨1, 0, 0⟩) = none := by decide
    rw [hnone] at hparse
    cases hparse
  · rintro ⟨comment, hparse, -, -, htags⟩
    have htypes : (DocComment.parse? (braced.text ⟨0, 0, 0⟩)).map
        (fun comment => comment.tags.map (·.type)) = some [none] := by
      decide +kernel
    rw [hparse] at htypes
    have hfound : comment.tags.map (·.type) = [none] := Option.some.inj htypes
    have hdrafted := congrArg (List.map fun part => part.2.1) htags
    rw [List.map_map, List.map_map] at hdrafted
    have heq : [none] = [some ""] := hfound.symm.trans hdrafted
    cases heq

end CommentDraft

end RouteScribe.Comment
