import RouteScribe.Text.Blank
import RouteScribe.Text.Line

/-!
# Lines that are joined and split

Lines without line boundaries that are joined come back when the text is split.  Where
line feeds are the only boundaries, both ways to split a text agree up to an empty last
line.
-/

namespace RouteScribe.Text

/-! ### Texts and their boundaries -/

/-- A text on one line. -/
def Unbroken (text : List Char) : Prop :=
  ∀ c ∈ text, isLineBreak c = false

/-- A text that has no line boundaries but line feeds. -/
def OnlyNewlines (text : List Char) : Prop :=
  ∀ c ∈ text, isLineBreak c → c = '\n'

instance (text : List Char) : Decidable (Unbroken text) :=
  List.decidableBAll (fun c => isLineBreak c = false) text

instance (text : List Char) : Decidable (OnlyNewlines text) :=
  List.decidableBAll (fun c => isLineBreak c → c = '\n') text

theorem Unbroken.not_mem {text : List Char} (htext : Unbroken text) : '\n' ∉ text := by
  intro hmem
  exact absurd (htext _ hmem) (by decide)

theorem Unbroken.append {front rest : List Char} (hfront : Unbroken front)
    (hrest : Unbroken rest) : Unbroken (front ++ rest) :=
  List.forall_mem_append.mpr ⟨hfront, hrest⟩

theorem OnlyNewlines.unbroken {text : List Char} (htext : OnlyNewlines text)
    (hnewline : '\n' ∉ text) : Unbroken text := by
  intro c hc
  cases hbreak : isLineBreak c with
  | false => rfl
  | true =>
      rw [htext c hc hbreak] at hc
      exact absurd hc hnewline

theorem OnlyNewlines.of_subset {text part : List Char} (htext : OnlyNewlines text)
    (hpart : part ⊆ text) : OnlyNewlines part :=
  fun c hc => htext c (hpart hc)

/-! ### The front of a text -/

variable {front rest : List Char} {holds : Char → Bool}

/-- A front that ends where a character of another kind stands. -/
theorem takeWhile_append_of_head (hfront : ∀ c ∈ front, holds c)
    (hrest : ∀ c ∈ rest.head?, holds c = false) : (front ++ rest).takeWhile holds = front := by
  rw [List.takeWhile_append_of_pos hfront]
  cases rest with
  | nil => simp
  | cons c rest => simp [hrest c rfl]

theorem dropWhile_append_of_head (hfront : ∀ c ∈ front, holds c)
    (hrest : ∀ c ∈ rest.head?, holds c = false) : (front ++ rest).dropWhile holds = rest := by
  rw [List.dropWhile_append_of_pos hfront]
  cases rest with
  | nil => simp
  | cons c rest => simp [hrest c rfl]

theorem forall_bne_newline (hfront : '\n' ∉ front) : ∀ c ∈ front, c != '\n' := by
  intro c hc
  rw [bne_iff_ne]
  rintro rfl
  exact hfront hc

/-! ### Pieces -/

variable {separator : Char} {piece : List Char} {pieces : List (List Char)}

theorem splitOnChar_of_not_mem (hpiece : separator ∉ piece) :
    splitOnChar separator piece = [piece] := by
  induction piece with
  | nil => rfl
  | cons c rest ih =>
      rw [List.mem_cons, not_or] at hpiece
      rw [splitOnChar, if_neg (Ne.symm hpiece.1), ih hpiece.2, consLine]

/-- Texts with the separator between them are split one after the other. -/
theorem splitOnChar_append (front rest : List Char) :
    splitOnChar separator (front ++ separator :: rest) =
      splitOnChar separator front ++ splitOnChar separator rest := by
  induction front with
  | nil => simp [splitOnChar]
  | cons c front ih =>
      rw [List.cons_append, splitOnChar, splitOnChar, ih]
      by_cases hc : c = separator
      · rw [if_pos hc, if_pos hc, List.cons_append]
      · rw [if_neg hc, if_neg hc]
        cases hsplit : splitOnChar separator front with
        | nil => exact absurd hsplit (splitOnChar_ne_nil separator front)
        | cons first others => rfl

theorem splitOnChar_append_cons (hpiece : separator ∉ piece) (rest : List Char) :
    splitOnChar separator (piece ++ separator :: rest) =
      piece :: splitOnChar separator rest := by
  rw [splitOnChar_append, splitOnChar_of_not_mem hpiece, List.singleton_append]

/-- Pieces without the separator come back when they have been joined. -/
theorem splitOnChar_joinWith (hne : pieces ≠ []) (hpieces : ∀ piece ∈ pieces, separator ∉ piece) :
    splitOnChar separator (joinWith separator pieces) = pieces := by
  induction pieces with
  | nil => exact absurd rfl hne
  | cons piece pieces ih =>
      rw [List.forall_mem_cons] at hpieces
      cases pieces with
      | nil => exact splitOnChar_of_not_mem hpieces.1
      | cons second pieces =>
          rw [joinWith, splitOnChar_append_cons hpieces.1, ih (by simp) hpieces.2]
          simp

/-- Joined pieces without the separator are equal only if the pieces are. -/
theorem joinWith_inj {others : List (List Char)} (hpieces : pieces ≠ []) (hothers : others ≠ [])
    (hfree : ∀ piece ∈ pieces, separator ∉ piece) (hfrees : ∀ piece ∈ others, separator ∉ piece) :
    joinWith separator pieces = joinWith separator others ↔ pieces = others := by
  refine ⟨fun hjoined => ?_, congrArg (joinWith separator)⟩
  rw [← splitOnChar_joinWith hpieces hfree, hjoined, splitOnChar_joinWith hothers hfrees]

theorem mem_joinWith {c : Char} (hc : c ∈ joinWith separator pieces) :
    c = separator ∨ ∃ piece ∈ pieces, c ∈ piece := by
  induction pieces with
  | nil => cases hc
  | cons piece pieces ih =>
      cases pieces with
      | nil => exact .inr ⟨piece, by simp, hc⟩
      | cons second pieces =>
          rw [joinWith, List.mem_append, List.mem_cons] at hc
          · rcases hc with hpiece | hseparator | hrest
            · exact .inr ⟨piece, by simp, hpiece⟩
            · exact .inl hseparator
            · apply (ih hrest).imp_right
              rintro ⟨other, hother, hmem⟩
              exact ⟨other, List.mem_cons_of_mem _ hother, hmem⟩
          · simp

/-- A piece has no separator, and its characters are those of the text. -/
theorem of_mem_splitOnChar {text : List Char} (hpiece : piece ∈ splitOnChar separator text) :
    separator ∉ piece ∧ piece ⊆ text := by
  induction text generalizing piece with
  | nil =>
      obtain rfl := List.mem_singleton.mp hpiece
      simp
  | cons c rest ih =>
      have hrest : ∀ other ∈ splitOnChar separator rest,
          separator ∉ other ∧ other ⊆ c :: rest := by
        intro other hother
        exact (ih hother).imp_right fun hsubset => List.Subset.trans hsubset (by simp)
      rw [splitOnChar] at hpiece
      split at hpiece
      · rcases List.mem_cons.mp hpiece with rfl | hmem
        · simp
        · exact hrest piece hmem
      · rename_i hc
        cases hsplit : splitOnChar separator rest with
        | nil => exact absurd hsplit (splitOnChar_ne_nil separator rest)
        | cons first others =>
            rw [hsplit] at hpiece hrest
            rcases List.mem_cons.mp hpiece with rfl | hmem
            · obtain ⟨hseparator, hsubset⟩ := hrest first (by simp)
              simp [Ne.symm hc, hseparator, hsubset]
            · exact hrest piece (List.mem_cons_of_mem _ hmem)

/-! ### Lines -/

variable {text : List Char} {lines : List (List Char)}

theorem splitNewlines_joinLines (hne : lines ≠ []) (hlines : ∀ line ∈ lines, '\n' ∉ line) :
    splitNewlines (joinLines lines) = lines :=
  splitOnChar_joinWith hne hlines

/-- A character that is no carriage return ends a line or belongs to one. -/
theorem splitLines_cons {c : Char} (hc : c ≠ '\r') (rest : List Char) :
    splitLines (c :: rest) =
      if isLineBreak c then [] :: splitLines rest else consLine c (splitLines rest) := by
  rw [splitLines]
  rintro _ rfl
  exact absurd rfl hc

theorem OnlyNewlines.unbroken_of_mem (htext : OnlyNewlines text) {line : List Char}
    (hline : line ∈ splitNewlines text) : Unbroken line := by
  obtain ⟨hnewline, hsubset⟩ := of_mem_splitOnChar hline
  exact (htext.of_subset hsubset).unbroken hnewline

theorem joinLines_cons (line : List Char) (hne : lines ≠ []) :
    joinLines (line :: lines) = line ++ '\n' :: joinLines lines := by
  cases lines with
  | nil => exact absurd rfl hne
  | cons second lines => rfl

theorem joinLines_append {front back : List (List Char)} (hfront : front ≠ []) (hback : back ≠ []) :
    joinLines (front ++ back) = joinLines front ++ '\n' :: joinLines back := by
  induction front with
  | nil => exact absurd rfl hfront
  | cons line front ih =>
      by_cases hne : front = []
      · rw [hne]
        exact joinLines_cons line hback
      · rw [List.cons_append, joinLines_cons line (by simp [hne]), ih hne,
          joinLines_cons line hne]
        simp

/-- Joined lines start with the first one. -/
theorem exists_joinLines_cons (line : List Char) (lines : List (List Char)) :
    ∃ rest, joinLines (line :: lines) = line ++ rest ∧ ∀ c ∈ rest.head?, c = '\n' := by
  by_cases hne : lines = []
  · exact ⟨[], by simp [hne, joinLines, joinWith], by simp⟩
  · exact ⟨_, joinLines_cons line hne, by simp⟩

/-- Joined lines end with the last one. -/
theorem exists_joinLines_concat (lines : List (List Char)) (last : List Char) :
    ∃ front, joinLines (lines ++ [last]) = front ++ last := by
  by_cases hne : lines = []
  · exact ⟨[], by rw [hne]; rfl⟩
  · refine ⟨joinLines lines ++ ['\n'], ?_⟩
    rw [joinLines_append hne (by simp)]
    simp [joinLines, joinWith]

/-- Lines are joined alike as strings and as lists of characters. -/
theorem toList_intercalate_newline (lines : List String) :
    ("\n".intercalate lines).toList = joinLines (lines.map String.toList) := by
  rw [String.toList_intercalate]
  generalize lines.map String.toList = lines
  induction lines with
  | nil => rfl
  | cons line lines ih =>
      cases lines with
      | nil => exact List.intercalate_singleton
      | cons second lines =>
          rw [List.intercalate_cons_cons, ih]
          simp [joinLines, joinWith]

/-- Splitting at line feeds gives one empty line more at most. -/
theorem OnlyNewlines.splitNewlines_eq (htext : OnlyNewlines text) :
    splitNewlines text = splitLines text ∨ splitNewlines text = splitLines text ++ [[]] := by
  unfold splitNewlines
  induction text with
  | nil => exact .inr rfl
  | cons c rest ih =>
      have hrest := ih (htext.of_subset (by simp))
      have hreturn : c ≠ '\r' := by
        rintro rfl
        exact absurd (htext '\r' (by simp) (by decide)) (by decide)
      rw [splitOnChar, splitLines_cons hreturn]
      by_cases hc : c = '\n'
      · subst hc
        rw [if_pos rfl, if_pos (by decide)]
        apply hrest.imp
        · exact congrArg _
        · exact congrArg _
      · rw [if_neg hc, if_neg (fun hbreak => hc (htext c (by simp) hbreak))]
        rcases hrest with heq | heq
        · exact .inl (by rw [heq])
        · rw [heq]
          cases splitLines rest with
          | nil => exact .inl rfl
          | cons line lines => exact .inr rfl

/-- A line with content has the same number in both ways to split a text. -/
theorem OnlyNewlines.getElem?_splitLines (htext : OnlyNewlines text) {index : Nat}
    {line : List Char} (hindex : (splitNewlines text)[index]? = some line) (hne : line ≠ []) :
    (splitLines text)[index]? = some line := by
  rcases htext.splitNewlines_eq with heq | heq
  · rwa [heq] at hindex
  · rw [heq, List.getElem?_append] at hindex
    split at hindex
    · exact hindex
    · cases hlast : index - (splitLines text).length with
      | zero =>
          rw [hlast] at hindex
          exact absurd (Option.some.inj hindex).symm hne
      | succ count =>
          rw [hlast] at hindex
          cases hindex

/-- Lines come back when they have been joined, unless the last one is empty. -/
theorem splitLines_joinLines (hlines : ∀ line ∈ lines, Unbroken line)
    (hlast : lines.getLast? ≠ some []) : splitLines (joinLines lines) = lines := by
  by_cases hne : lines = []
  · subst hne
    rfl
  · have hjoined : OnlyNewlines (joinLines lines) := by
      intro c hc hbreak
      apply (mem_joinWith hc).resolve_right
      rintro ⟨line, hline, hmem⟩
      rw [hlines line hline c hmem] at hbreak
      cases hbreak
    have hsplit := splitNewlines_joinLines hne fun line hline => (hlines line hline).not_mem
    rcases hjoined.splitNewlines_eq with heq | heq
    · rw [← heq, hsplit]
    · rw [hsplit] at heq
      rw [heq] at hlast
      simp at hlast

end RouteScribe.Text
