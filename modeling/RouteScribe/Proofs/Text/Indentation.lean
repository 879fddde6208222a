import RouteScribe.Proofs.Text.Lines
import RouteScribe.Proofs.Text.Trimming
import RouteScribe.Text.Dedent

/-!
# Margins of lines

A margin in front of lines that share no indentation is their shared indentation, so it
is what is removed from them.  Lines without blanks at the end keep everything else.
-/

namespace RouteScribe.Text

variable {lines : List (List Char)} {margin line : List Char}

/-! ### Shared indentation -/

theorem commonStart_append (margin left right : List Char) :
    commonStart (margin ++ left) (margin ++ right) = margin ++ commonStart left right := by
  induction margin with
  | nil => rfl
  | cons c margin ih => simp [commonStart, ih]

theorem foldl_commonStart_append (margin first : List Char) (others : List (List Char)) :
    (others.map (margin ++ ·)).foldl commonStart (margin ++ first) =
      margin ++ others.foldl commonStart first := by
  induction others generalizing first with
  | nil => rfl
  | cons other others ih =>
      rw [List.map_cons, List.foldl_cons, commonStart_append, ih, List.foldl_cons]

@[simp]
theorem commonStart_nil_right (left : List Char) : commonStart left [] = [] := by
  cases left <;> rfl

theorem foldl_commonStart_eq_nil {first : List Char} {others : List (List Char)}
    (hempty : [] ∈ first :: others) : others.foldl commonStart first = [] := by
  induction others generalizing first with
  | nil => exact (List.mem_singleton.mp hempty).symm
  | cons other others ih =>
      rw [List.foldl_cons]
      apply ih
      rcases List.mem_cons.mp hempty with rfl | hother
      · exact List.mem_cons_self
      · rcases List.mem_cons.mp hother with rfl | hothers
        · simp
        · exact List.mem_cons_of_mem _ hothers

def indents (lines : List (List Char)) : List (List Char) :=
  (lines.filter (!·.isEmpty)).map (·.takeWhile isIndent)

theorem mem_indents (hline : line ∈ lines) (hne : line ≠ []) :
    line.takeWhile isIndent ∈ indents lines := by
  rw [indents, List.mem_map]
  exact ⟨line, List.mem_filter.mpr ⟨hline, by simpa using hne⟩, rfl⟩

theorem sharedIndent_of_indents {first : List Char} {others : List (List Char)}
    (hindents : indents lines = first :: others) :
    sharedIndent lines = others.foldl commonStart first := by
  unfold indents at hindents
  rw [sharedIndent, hindents]

/-- Lines have no indentation in common if one of them has none. -/
theorem sharedIndent_eq_nil (hline : line ∈ lines) (hne : line ≠ [])
    (hindent : line.takeWhile isIndent = []) : sharedIndent lines = [] := by
  have hmem := mem_indents hline hne
  rw [hindent] at hmem
  cases hindents : indents lines with
  | nil =>
      rw [hindents] at hmem
      cases hmem
  | cons first others =>
      rw [hindents] at hmem
      rw [sharedIndent_of_indents hindents]
      exact foldl_commonStart_eq_nil hmem

theorem sharedIndent_of_empty (hlines : ∀ line ∈ lines, line = []) : sharedIndent lines = [] := by
  have hnone : lines.filter (!·.isEmpty) = [] := by
    rw [List.filter_eq_nil_iff]
    intro line hline
    simp [hlines line hline]
  rw [sharedIndent, hnone]
  rfl

/-! ### Lines with a margin -/

/-- A line with a margin in front, unless it is empty. -/
def addMargin (margin line : List Char) : List Char :=
  if line.isEmpty then [] else margin ++ line

@[simp]
theorem addMargin_nil (margin : List Char) : addMargin margin [] = [] := rfl

theorem addMargin_of_ne_nil (hne : line ≠ []) : addMargin margin line = margin ++ line := by
  simp [addMargin, hne]

theorem unbroken_addMargin (hmargin : Unbroken margin) (hline : Unbroken line) :
    Unbroken (addMargin margin line) := by
  unfold addMargin
  split
  · exact List.forall_mem_nil _
  · exact hmargin.append hline

theorem isBlank_of_isIndent {c : Char} (hc : isIndent c) : isBlank c := by
  simp only [isIndent, Bool.or_eq_true, decide_eq_true_eq] at hc
  rcases hc with rfl | rfl <;> decide

theorem takeWhile_isIndent (hline : trimStart line = line) : line.takeWhile isIndent = [] := by
  cases line with
  | nil => rfl
  | cons c rest =>
      have hc : ¬ isIndent c := by
        intro hindent
        have hblank := isBlank_of_isIndent hindent
        rw [isBlank_head_of_trimStart hline c rfl] at hblank
        cases hblank
      simp [hc]

/-- A line without blanks at its end is not made of indentation. -/
theorem clearIndent_of_trimEnd (hline : trimEnd line = line) : clearIndent line = line := by
  rw [clearIndent]
  split
  · rename_i hall
    have hblank : ∀ c ∈ line, isBlank c := by
      intro c hc
      exact isBlank_of_isIndent (List.all_eq_true.mp hall c hc)
    rw [← hline]
    exact (List.rdropWhile_eq_nil_iff.mpr hblank).symm
  · rfl

theorem trimEnd_addMargin (margin : List Char) (hline : trimEnd line = line) :
    trimEnd (addMargin margin line) = addMargin margin line := by
  by_cases hne : line = []
  · rw [hne, addMargin_nil, trimEnd_nil]
  · rw [addMargin_of_ne_nil hne, trimEnd_append_of_ne_nil margin hline hne]

theorem indents_addMargin (hmargin : ∀ c ∈ margin, isIndent c) (lines : List (List Char)) :
    indents (lines.map (addMargin margin)) = (indents lines).map (margin ++ ·) := by
  induction lines with
  | nil => rfl
  | cons line lines ih =>
      unfold indents at ih ⊢
      by_cases hne : line = []
      · simp [hne, ih]
      · simp [addMargin_of_ne_nil hne, hne, ih, List.takeWhile_append_of_pos hmargin]

/-- A margin on every line is shared by all of them. -/
theorem sharedIndent_addMargin (hmargin : ∀ c ∈ margin, isIndent c) (hline : line ∈ lines)
    (hne : line ≠ []) :
    sharedIndent (lines.map (addMargin margin)) = margin ++ sharedIndent lines := by
  have hmem := mem_indents hline hne
  have hwidened := indents_addMargin hmargin lines
  cases hindents : indents lines with
  | nil =>
      rw [hindents] at hmem
      cases hmem
  | cons first others =>
      rw [hindents, List.map_cons] at hwidened
      rw [sharedIndent_of_indents hwidened, sharedIndent_of_indents hindents]
      exact foldl_commonStart_append margin first others

/-- A margin is removed from lines that share no indentation. -/
theorem dedentLines_addMargin (hmargin : ∀ c ∈ margin, isIndent c)
    (hlines : ∀ line ∈ lines, trimEnd line = line) (hshared : sharedIndent lines = []) :
    dedentLines (lines.map (addMargin margin)) = lines := by
  have hcleared : (lines.map (addMargin margin)).map clearIndent =
      lines.map (addMargin margin) := by
    rw [List.map_map, List.map_inj_left]
    intro line hline
    exact clearIndent_of_trimEnd (trimEnd_addMargin margin (hlines line hline))
  rw [dedentLines, hcleared, List.map_map]
  refine (List.map_congr_left ?_).trans (List.map_id lines)
  intro line hline
  rw [Function.comp_apply, id]
  by_cases hne : line = []
  · rw [hne, addMargin_nil, dropMargin]
    simp
  · rw [sharedIndent_addMargin hmargin hline hne, hshared, List.append_nil,
      addMargin_of_ne_nil hne, dropMargin]
    simp

theorem dedentLines_eq_self (hlines : ∀ line ∈ lines, trimEnd line = line)
    (hshared : sharedIndent lines = []) : dedentLines lines = lines := by
  have hmap : lines.map (addMargin []) = lines := by
    refine (List.map_congr_left ?_).trans (List.map_id lines)
    intro line _
    cases line <;> rfl
  have hdedent := dedentLines_addMargin (List.forall_mem_nil _) hlines hshared
  rwa [hmap] at hdedent

theorem dedent_joinLines (hlines : ∀ line ∈ lines, '\n' ∉ line) :
    dedent (joinLines lines) = joinLines (dedentLines lines) := by
  by_cases hne : lines = []
  · subst hne
    rfl
  · rw [dedent, splitNewlines_joinLines hne hlines]

theorem trimEnd_joinLines (hlast : ∀ line ∈ lines.getLast?, trimEnd line = line ∧ line ≠ []) :
    trimEnd (joinLines lines) = joinLines lines := by
  rcases List.eq_nil_or_concat lines with rfl | ⟨others, last, rfl⟩
  · rfl
  · rw [List.concat_eq_append] at hlast ⊢
    obtain ⟨hend, hne⟩ := hlast last (by simp)
    obtain ⟨front, hjoined⟩ := exists_joinLines_concat others last
    rw [hjoined]
    exact trimEnd_append_of_ne_nil front hend hne

/-! ### Blank lines around others -/

theorem trim_joinLines_replicate_append (count : Nat) (lines : List (List Char)) :
    trim (joinLines (List.replicate count [] ++ lines)) = trim (joinLines lines) := by
  induction count with
  | zero => rfl
  | succ count ih =>
      rw [List.replicate_succ, List.cons_append]
      by_cases hne : List.replicate count [] ++ lines = []
      · rw [hne] at ih ⊢
        exact ih
      · rw [joinLines_cons _ hne, List.nil_append, trim_cons_of_blank isBlank_newline, ih]

/-- Empty lines at the end are trimmed away. -/
theorem trim_joinLines_append_replicate (count : Nat) (lines : List (List Char)) :
    trim (joinLines (lines ++ List.replicate count [])) = trim (joinLines lines) := by
  induction count with
  | zero => rw [List.replicate_zero, List.append_nil]
  | succ count ih =>
      rw [List.replicate_succ', ← List.append_assoc]
      by_cases hne : lines ++ List.replicate count [] = []
      · rw [hne] at ih ⊢
        exact ih
      · rw [joinLines_append hne (by simp), ← ih]
        exact trim_append_of_blank (List.forall_mem_nil _) _ (by simp [joinLines, joinWith])

end RouteScribe.Text
