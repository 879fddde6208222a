import RouteScribe.Comment.Basic
import RouteScribe.Proofs.Text.Lines
import RouteScribe.Proofs.Text.Trimming

/-!
# The lines of a documentation comment

Every tag of a comment stands in one of its lines, whose number it has.  That line,
without marks and blanks, is the first line of the text that the tag was read from.
-/

namespace RouteScribe.Comment

open RouteScribe.Text

/-! ### Marks -/

/-- Blanks in front of a line do not matter. -/
theorem stripMarks_append_of_blank {front : List Char} (hfront : ∀ c ∈ front, isBlank c)
    (line : List Char) : stripMarks (front ++ line) = stripMarks line := by
  unfold stripMarks
  rw [trimStart_append_of_blank hfront]

theorem stripMarks_subset (line : List Char) : stripMarks line ⊆ line := by
  have hstart : (trimStart line).Sublist line := List.dropWhile_sublist _
  have hend : ∀ text, (trimEnd text).Sublist text := fun text => (trimEnd_isPrefix text).sublist
  apply List.Sublist.subset
  unfold stripMarks
  split
  · rename_i rest hmark
    have hrest : (rest.dropWhile (· = '#')).Sublist line := by
      rw [hmark] at hstart
      exact (List.dropWhile_sublist _).trans ((List.sublist_cons_self _ _).trans hstart)
    split
    · rename_i content hcontent
      rw [hcontent] at hrest
      exact (hend content).trans ((List.sublist_cons_self _ _).trans hrest)
    · exact (hend _).trans hrest
  · exact (hend _).trans hstart

/-- The mark of a line and the space after it go, and blanks at the end. -/
@[simp]
theorem stripMarks_mark (line : List Char) : stripMarks ('#' :: ' ' :: line) = trimEnd line := by
  have hmark : isBlank '#' = false := by decide
  rw [stripMarks, trimStart_of_not_blank hmark]
  simp

/-! ### Sections and tags -/

/-- Lines that are no tag lines come before the first section. -/
theorem splitSections_append {free : List (List Char)}
    (hfree : ∀ content ∈ free, tagLine? (trim content) = none) (line : Nat)
    (rest : List (List Char)) :
    splitSections line (free ++ rest) =
      (free ++ (splitSections (line + free.length) rest).1,
        (splitSections (line + free.length) rest).2) := by
  induction free generalizing line with
  | nil => rfl
  | cons content free ih =>
      rw [List.forall_mem_cons] at hfree
      have hnumber : line + 1 + free.length = line + (content :: free).length := by
        rw [List.length_cons]
        omega
      rw [List.cons_append, splitSections, ih hfree.2, hfree.1, hnumber]
      rfl

/-- A tag line starts a section with the lines that come before the next one. -/
theorem splitSections_cons {content kind body : List Char}
    (htag : tagLine? (trim content) = some (kind, body)) (line : Nat)
    (rest : List (List Char)) :
    splitSections line (content :: rest) =
      ([], { line, head := trim content, kind, body,
             following := (splitSections (line + 1) rest).1 } ::
        (splitSections (line + 1) rest).2) := by
  rw [splitSections, htag]

/-- A section has the number of its line. -/
theorem getElem?_of_mem_splitSections {line : Nat} {contents : List (List Char)}
    {part : Section} (hpart : part ∈ (splitSections line contents).2) :
    ∃ index content, part.line = line + index ∧ contents[index]? = some content ∧
      part.head = trim content ∧ tagLine? part.head = some (part.kind, part.body) := by
  induction contents generalizing line with
  | nil => cases hpart
  | cons content rest ih =>
      have hrest : part ∈ (splitSections (line + 1) rest).2 →
          ∃ index found, part.line = line + index ∧ (content :: rest)[index]? = some found ∧
            part.head = trim found ∧ tagLine? part.head = some (part.kind, part.body) := by
        intro hmem
        obtain ⟨index, found, hline, hfound, htag⟩ := ih hmem
        exact ⟨index + 1, found, by omega, by simpa using hfound, htag⟩
      rw [splitSections] at hpart
      dsimp only at hpart
      split at hpart
      · rename_i kind body htag
        rcases List.mem_cons.mp hpart with rfl | hmem
        · exact ⟨0, content, rfl, rfl, rfl, htag⟩
        · exact hrest hmem
      · exact hrest hpart

theorem ne_nil_of_tagLine {line : List Char} {parts : List Char × List Char}
    (htag : tagLine? line = some parts) : line ≠ [] := by
  rintro rfl
  cases htag

/-- The first of joined lines, if it is trimmed at its end. -/
theorem takeWhile_trimEnd_joinLines {head : List Char} (hhead : '\n' ∉ head)
    (htrimmed : trimEnd head = head) (following : List (List Char)) :
    (trimEnd (joinLines (head :: following))).takeWhile (· != '\n') = head := by
  obtain ⟨rest, hjoined, hrest⟩ := exists_joinLines_cons head following
  rw [hjoined, trimEnd_append htrimmed]
  apply takeWhile_append_of_head (forall_bne_newline hhead)
  intro c hc
  simp [hrest c (mem_head_of_trimEnd hc)]

/-- The first line of a text and what follows it. -/
theorem splitFirstLine_append {title rest : List Char} (htitle : '\n' ∉ title)
    (hrest : ∀ c ∈ rest.head?, c = '\n') :
    (splitFirstLine (title ++ rest)).1 = title ∧
      trim ((splitFirstLine (title ++ rest)).2.getD []) = trim rest := by
  have htitleChars := forall_bne_newline htitle
  have hboundary : ∀ c ∈ rest.head?, (c != '\n') = false := by
    intro c hc
    simp [hrest c hc]
  unfold splitFirstLine
  rw [takeWhile_append_of_head htitleChars hboundary,
    dropWhile_append_of_head htitleChars hboundary]
  cases rest with
  | nil => simp
  | cons c rest =>
      obtain rfl := hrest c rfl
      simp

/-- Joined lines keep all their line feeds if they are not empty at the ends. -/
theorem trimNewlines_joinLines {lines : List (List Char)} (hlines : ∀ line ∈ lines, '\n' ∉ line)
    (hfirst : lines.head? ≠ some []) (hlast : lines.getLast? ≠ some []) :
    trimNewlines (joinLines lines) = joinLines lines := by
  have hstart : (joinLines lines).dropWhile (· = '\n') = joinLines lines := by
    cases lines with
    | nil => rfl
    | cons first others =>
        obtain ⟨rest, hjoined, -⟩ := exists_joinLines_cons first others
        rw [hjoined]
        cases first with
        | nil => exact absurd rfl hfirst
        | cons c first =>
            have hc : c ≠ '\n' := by
              rintro rfl
              exact hlines _ List.mem_cons_self List.mem_cons_self
            simp [hc]
  rw [trimNewlines, hstart]
  rcases List.eq_nil_or_concat lines with rfl | ⟨others, last, rfl⟩
  · rfl
  · rw [List.concat_eq_append] at hlines hlast ⊢
    obtain ⟨front, hjoined⟩ := exists_joinLines_concat others last
    have hne : last ≠ [] := by
      rintro rfl
      simp at hlast
    obtain ⟨more, c, rfl⟩ := (List.eq_nil_or_concat last).resolve_left hne
    have hc : c ≠ '\n' := by
      rintro rfl
      exact hlines (more.concat '\n') (by simp) (by simp)
    rw [hjoined, List.concat_eq_append, ← List.append_assoc]
    exact List.rdropWhile_concat_neg _ _ _ (by simpa using hc)

/-- A tag of a comment stands in the line whose number it has. -/
theorem exists_line_of_mem_tags {text : String} {comment : DocComment} {tag : Tag}
    (hparse : DocComment.parse? text = some comment) (htag : tag ∈ comment.tags) :
    ∃ line, (splitLines text.toList)[tag.line]? = some line ∧ trim (stripMarks line) ≠ [] ∧
      ('\n' ∉ line → trim (stripMarks line) = tag.source.toList.takeWhile (· != '\n')) := by
  unfold DocComment.parse? at hparse
  dsimp only at hparse
  split at hparse
  · cases hparse
  · obtain rfl := Option.some.inj hparse
    obtain ⟨part, hpart, rfl⟩ := List.mem_map.mp htag
    obtain ⟨index, content, hline, hcontent, hhead, hkind⟩ := getElem?_of_mem_splitSections hpart
    rw [Nat.zero_add] at hline
    rw [contentLines, List.getElem?_map, Option.map_eq_some_iff] at hcontent
    obtain ⟨line, hindex, rfl⟩ := hcontent
    refine ⟨line, ?_, ?_, ?_⟩
    · rw [Section.toTag, hline]
      exact hindex
    · rw [← hhead]
      exact ne_nil_of_tagLine hkind
    · intro hunbroken
      rw [Section.toTag, hhead, String.toList_ofList, takeWhile_trimEnd_joinLines]
      · intro hmem
        exact hunbroken (stripMarks_subset line (trim_subset _ hmem))
      · exact trimEnd_trim _

end RouteScribe.Comment
