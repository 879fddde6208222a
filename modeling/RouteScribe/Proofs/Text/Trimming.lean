import Mathlib.Data.List.DropRight
import Mathlib.Data.List.Infix
import Mathlib.Data.List.TakeWhile
import RouteScribe.Text.Blank

/-!
# Trimmed texts

A text is trimmed at an end if the character there is not blank.  What follows a text that
is trimmed at its end can be trimmed on its own.
-/

namespace RouteScribe.Text

variable {text front rest : List Char} {c : Char}

@[simp]
theorem isBlank_space : isBlank ' ' = true := by decide

@[simp]
theorem isBlank_newline : isBlank '\n' = true := by decide

theorem dropEndWhile_eq_rdropWhile {α : Type} (drop : α → Bool) (items : List α) :
    dropEndWhile drop items = items.rdropWhile drop := rfl

/-! ### The end of a text -/

@[simp]
theorem trimEnd_nil : trimEnd [] = [] := rfl

@[simp]
theorem trimEnd_trimEnd (text : List Char) : trimEnd (trimEnd text) = trimEnd text :=
  List.rdropWhile_idempotent isBlank text

theorem trimEnd_isPrefix (text : List Char) : trimEnd text <+: text :=
  List.rdropWhile_prefix isBlank text

theorem mem_head_of_trimEnd (hc : c ∈ (trimEnd text).head?) : c ∈ text.head? := by
  obtain ⟨rest, hsplit⟩ := trimEnd_isPrefix text
  rw [← hsplit]
  exact List.mem_head?_append_of_mem_head? hc

theorem trimEnd_append (hfront : trimEnd front = front) (rest : List Char) :
    trimEnd (front ++ rest) = front ++ trimEnd rest := by
  have hreverse : front.reverse.dropWhile isBlank = front.reverse :=
    List.reverse_injective (by simpa [trimEnd, dropEndWhile] using hfront)
  simp only [trimEnd, dropEndWhile, List.reverse_append, List.dropWhile_append]
  split
  · rename_i hempty
    rw [hreverse, List.isEmpty_iff.mp hempty]
    simp
  · simp

theorem trimEnd_append_of_blank (hrest : ∀ c ∈ rest, isBlank c) (text : List Char) :
    trimEnd (text ++ rest) = trimEnd text := by
  have hreverse : ∀ c ∈ rest.reverse, isBlank c := by simpa using hrest
  simp [trimEnd, dropEndWhile, List.dropWhile_append_of_pos hreverse]

/-- Only the end of a text matters. -/
theorem trimEnd_append_of_ne_nil (front : List Char) (hrest : trimEnd rest = rest)
    (hne : rest ≠ []) : trimEnd (front ++ rest) = front ++ rest := by
  obtain ⟨more, last, rfl⟩ := (List.eq_nil_or_concat rest).resolve_left hne
  rw [List.concat_eq_append] at hrest ⊢
  have hlast : ¬ isBlank last := by
    intro hblank
    rw [trimEnd, dropEndWhile_eq_rdropWhile, List.rdropWhile_concat_pos _ _ _ hblank] at hrest
    have hlength := (List.rdropWhile_prefix isBlank more).length_le
    rw [hrest, List.length_append, List.length_singleton] at hlength
    omega
  rw [← List.append_assoc]
  exact List.rdropWhile_concat_neg _ _ _ hlast

/-! ### Both ends of a text -/

theorem trimStart_of_not_blank (hc : isBlank c = false) (rest : List Char) :
    trimStart (c :: rest) = c :: rest := by
  simp [trimStart, hc]

theorem trimStart_append_of_blank (hfront : ∀ c ∈ front, isBlank c) (rest : List Char) :
    trimStart (front ++ rest) = trimStart rest :=
  List.dropWhile_append_of_pos hfront

@[simp]
theorem trimEnd_trim (text : List Char) : trimEnd (trim text) = trim text :=
  trimEnd_trimEnd _

theorem trim_subset (text : List Char) : trim text ⊆ text :=
  List.Subset.trans (trimEnd_isPrefix _).subset (List.dropWhile_sublist _).subset

theorem isBlank_head_of_trimStart (htext : trimStart text = text) :
    ∀ c ∈ text.head?, isBlank c = false := by
  intro c hc
  have hhead := List.head?_dropWhile_not isBlank text
  rw [trimStart] at htext
  rw [htext, Option.mem_def.mp hc] at hhead
  exact hhead

theorem ne_nil_of_isBlankText (htext : isBlankText text = false) : text ≠ [] := by
  rintro rfl
  cases htext

theorem isBlankText_eq_false (htext : trimStart text = text) (hne : text ≠ []) :
    isBlankText text = false := by
  cases text with
  | nil => exact absurd rfl hne
  | cons c rest => simp [isBlankText, isBlank_head_of_trimStart htext c rfl]

theorem trimStart_append (hfront : trimStart front = front) (hne : front ≠ [])
    (rest : List Char) : trimStart (front ++ rest) = front ++ rest := by
  cases front with
  | nil => exact absurd rfl hne
  | cons c front => exact trimStart_of_not_blank (isBlank_head_of_trimStart hfront c rfl) _

/-- A text is trimmed if it is so at both ends. -/
theorem trim_eq_self_iff : trim text = text ↔ trimStart text = text ∧ trimEnd text = text := by
  constructor
  · intro htext
    refine ⟨?_, ?_⟩
    · have hprefix := (trimEnd_isPrefix (trimStart text)).length_le
      have hsuffix : trimStart text <:+ text := List.dropWhile_suffix isBlank
      apply hsuffix.eq_of_length_le
      calc
        text.length = (trim text).length := by rw [htext]
        _ ≤ (trimStart text).length := hprefix
    · rw [← htext]
      exact trimEnd_trim text
  · rintro ⟨hstart, hend⟩
    rw [trim, hstart, hend]

/-- Blanks around a text do not matter. -/
theorem trim_append_of_blank (hfront : ∀ c ∈ front, isBlank c) (text : List Char)
    (hrest : ∀ c ∈ rest, isBlank c) : trim (front ++ text ++ rest) = trim text := by
  rw [trim, List.append_assoc, trimStart_append_of_blank hfront]
  unfold trimStart
  rw [List.dropWhile_append]
  split
  · rename_i hempty
    have hnil : rest.dropWhile isBlank = [] := List.dropWhile_eq_nil_iff.mpr hrest
    rw [hnil, trim, trimStart, List.isEmpty_iff.mp hempty]
  · exact trimEnd_append_of_blank hrest _

@[simp]
theorem trim_cons_of_blank (hc : isBlank c) (text : List Char) : trim (c :: text) = trim text := by
  simp [trim, trimStart, hc]

@[simp]
theorem trim_trimEnd (text : List Char) : trim (trimEnd text) = trim text := by
  have hsplit : trimEnd text ++ text.rtakeWhile isBlank = text :=
    List.rdropWhile_append_rtakeWhile
  have hblank : ∀ c ∈ text.rtakeWhile isBlank, isBlank c := fun _ => List.mem_rtakeWhile_imp
  calc
    trim (trimEnd text) = trim ([] ++ trimEnd text ++ text.rtakeWhile isBlank) :=
      (trim_append_of_blank (List.forall_mem_nil _) _ hblank).symm
    _ = trim text := by rw [List.nil_append, hsplit]

end RouteScribe.Text
