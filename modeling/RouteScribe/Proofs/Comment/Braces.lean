import Mathlib.Data.List.TakeDrop
import RouteScribe.Proofs.Comment.TagLine

/-!
# Closing braces and the content of a tag line

The brace that closes the first one of a text is where as many braces have been closed as
opened for the first time.  A tag line is cut at such braces and at blanks only, so its
parts hold all of its characters that are not blank, in their order.
-/

namespace RouteScribe.Comment

open RouteScribe.Text

variable {text inside rest front : List Char} {c : Char} {depth : Int} {index last : Nat}

/-! ### Nesting -/

/-- How many more braces a text opens than it closes. -/
def nesting (text : List Char) : Int :=
  text.count '{' - text.count '}'

theorem nesting_cons (c : Char) (text : List Char) :
    nesting (c :: text) = nesting [c] + nesting text := by
  simp only [nesting, List.count_cons, List.count_nil]
  omega

theorem nesting_other (hopen : c ≠ '{') (hclose : c ≠ '}') : nesting [c] = 0 := by
  simp [nesting, hopen, hclose]

theorem nesting_pos_iff : 0 < nesting text ↔ text.count '}' < text.count '{' := by
  simp only [nesting]
  omega

theorem nesting_eq_zero_iff : nesting text = 0 ↔ text.count '{' = text.count '}' := by
  simp only [nesting]
  omega

@[simp]
theorem nesting_nil : nesting [] = 0 := rfl

@[simp]
theorem nesting_open : nesting ['{'] = 1 := by decide

@[simp]
theorem nesting_close : nesting ['}'] = -1 := by decide

/-! ### The closing brace -/

/-- One step of the search: it ends at a brace that closes the last open one. -/
theorem closingBraceFrom_cons (c : Char) (text : List Char) (depth : Int) (index : Nat) :
    closingBraceFrom depth index (c :: text) =
      if c = '}' ∧ depth = 1 then some index
      else closingBraceFrom (depth + nesting [c]) (index + 1) text := by
  by_cases hopen : c = '{'
  · subst hopen
    rfl
  · by_cases hclose : c = '}'
    · subst hclose
      have hlevel : depth - 1 = 0 ↔ depth = 1 := by omega
      simp only [closingBraceFrom, hlevel, true_and]
      rfl
    · rw [closingBraceFrom, nesting_other hopen hclose, Int.add_zero, if_neg (by simp [hclose])]
      · exact hopen
      · exact hclose

/-- Where braces are open, only the brace that closes the last one ends this. -/
theorem add_nesting_pos (hdepth : 0 < depth) (hcloses : ¬ (c = '}' ∧ depth = 1)) :
    0 < depth + nesting [c] := by
  by_cases hopen : c = '{'
  · rw [hopen, nesting_open]
    omega
  · by_cases hclose : c = '}'
    · have hdeep : depth ≠ 1 := fun hone => hcloses ⟨hclose, hone⟩
      rw [hclose, nesting_close]
      omega
    · rw [nesting_other hopen hclose]
      omega

/-- The depth after the front of a text, one character later. -/
theorem add_nesting_take_succ (depth : Int) (c : Char) (text : List Char) (length : Nat) :
    depth + nesting ((c :: text).take (length + 1)) =
      depth + nesting [c] + nesting (text.take length) := by
  rw [List.take_succ_cons, nesting_cons, Int.add_assoc]

/-- At an offset of a text stands the brace that brings a depth back to zero for the first
time. -/
structure ClosesAt (depth : Int) (text : List Char) (offset : Nat) : Prop where
  brace : text[offset]? = some '}'
  level : depth + nesting (text.take (offset + 1)) = 0
  above : ∀ length ≤ offset, 0 < depth + nesting (text.take length)

theorem closesAt_zero_iff : ClosesAt depth (c :: text) 0 ↔ c = '}' ∧ depth = 1 := by
  constructor
  · rintro ⟨hbrace, hlevel, -⟩
    obtain rfl : c = '}' := by simpa using hbrace
    rw [List.take_succ_cons, List.take_zero, nesting_close] at hlevel
    exact ⟨rfl, by omega⟩
  · rintro ⟨rfl, rfl⟩
    refine ⟨rfl, by simp, ?_⟩
    intro length hlength
    simp [Nat.le_zero.mp hlength]

/-- A group closes one place further if the character in front leaves it open. -/
theorem closesAt_succ_iff {offset : Nat} : ClosesAt depth (c :: text) (offset + 1) ↔
    0 < depth ∧ ClosesAt (depth + nesting [c]) text offset := by
  constructor
  · rintro ⟨hbrace, hlevel, habove⟩
    rw [add_nesting_take_succ] at hlevel
    refine ⟨by simpa using habove 0 (Nat.zero_le _), by simpa using hbrace, hlevel, ?_⟩
    intro length hlength
    rw [← add_nesting_take_succ]
    exact habove (length + 1) (by omega)
  · rintro ⟨hdepth, hbrace, hlevel, habove⟩
    rw [← add_nesting_take_succ] at hlevel
    refine ⟨by simpa using hbrace, hlevel, ?_⟩
    intro length hlength
    cases length with
    | zero => simpa using hdepth
    | succ length =>
        rw [add_nesting_take_succ]
        exact habove length (by omega)

/-- Where braces are open, the search finds the first place at which all of them are
closed. -/
theorem closingBraceFrom_eq_some_iff (hdepth : 0 < depth) :
    closingBraceFrom depth index text = some last ↔
      ∃ offset, last = index + offset ∧ ClosesAt depth text offset := by
  induction text generalizing depth index with
  | nil =>
      constructor
      · intro hnone
        cases hnone
      · rintro ⟨offset, -, hbrace, -, -⟩
        cases hbrace
  | cons c text ih =>
      rw [closingBraceFrom_cons]
      by_cases hcloses : c = '}' ∧ depth = 1
      · rw [if_pos hcloses, Option.some.injEq]
        constructor
        · rintro rfl
          exact ⟨0, rfl, closesAt_zero_iff.mpr hcloses⟩
        · rintro ⟨offset, rfl, hoffset⟩
          cases offset with
          | zero => rfl
          | succ offset =>
              -- The depth is zero behind the brace, so no later place is the first one.
              have habove := (closesAt_succ_iff.mp hoffset).2.above 0 (Nat.zero_le _)
              obtain ⟨rfl, rfl⟩ := hcloses
              simp at habove
      · rw [if_neg hcloses, ih (add_nesting_pos hdepth hcloses)]
        constructor
        · rintro ⟨offset, rfl, hrest⟩
          exact ⟨offset + 1, by omega, closesAt_succ_iff.mpr ⟨hdepth, hrest⟩⟩
        · rintro ⟨offset, rfl, hoffset⟩
          cases offset with
          | zero => exact absurd (closesAt_zero_iff.mp hoffset) hcloses
          | succ offset => exact ⟨offset, by omega, (closesAt_succ_iff.mp hoffset).2⟩

/-- The search fails if braces stay open to the end. -/
theorem closingBraceFrom_eq_none_iff (hdepth : 0 < depth) :
    closingBraceFrom depth index text = none ↔
      ∀ length, 0 < depth + nesting (text.take length) := by
  induction text generalizing depth index with
  | nil => simpa [closingBraceFrom] using hdepth
  | cons c text ih =>
      rw [closingBraceFrom_cons]
      by_cases hcloses : c = '}' ∧ depth = 1
      · rw [if_pos hcloses]
        obtain ⟨rfl, rfl⟩ := hcloses
        constructor
        · intro hsome
          cases hsome
        · intro habove
          simpa using habove 1
      · rw [if_neg hcloses, ih (add_nesting_pos hdepth hcloses)]
        constructor
        · intro habove length
          cases length with
          | zero => simpa using hdepth
          | succ length =>
              rw [add_nesting_take_succ]
              exact habove length
        · intro habove length
          rw [← add_nesting_take_succ]
          exact habove (length + 1)

/-! ### The first group of a text -/

/-- A text up to an index is a group: a closing brace stands there, as many braces are
opened as closed, and in every shorter front more are opened than closed. -/
structure IsGroupUpTo (text : List Char) (last : Nat) : Prop where
  brace : text[last]? = some '}'
  even : (text.take (last + 1)).count '{' = (text.take (last + 1)).count '}'
  uneven : ∀ front, front <+: text.take (last + 1) → front ≠ [] →
    front ≠ text.take (last + 1) → front.count '}' < front.count '{'

/-- The shorter fronts of a text by their lengths. -/
theorem forall_proper_prefix_iff {holds : List Char → Prop} (hlast : last < text.length) :
    (∀ front, front <+: text.take (last + 1) → front ≠ [] → front ≠ text.take (last + 1) →
      holds front) ↔ ∀ length < last, holds (text.take (length + 1)) := by
  constructor
  · intro hfronts length hlength
    apply hfronts
    · exact List.take_prefix_take_left (by omega)
    · apply List.ne_nil_of_length_pos
      rw [List.length_take]
      omega
    · intro heq
      have hlengths := congrArg List.length heq
      rw [List.length_take, List.length_take] at hlengths
      omega
  · intro hlengths front hstarts hne hproper
    have hle := hstarts.length_le
    have hlt : front.length < (text.take (last + 1)).length :=
      Nat.lt_of_le_of_ne hle fun heq => hproper (hstarts.eq_of_length heq)
    have hpos := List.length_pos_iff.mpr hne
    rw [List.length_take] at hlt
    have hfront := List.prefix_iff_eq_take.mp (hstarts.trans (List.take_prefix _ _))
    obtain ⟨length, hlength⟩ := Nat.exists_eq_add_of_le' hpos
    rw [hfront, hlength]
    exact hlengths length (by omega)

/-- Where a text that starts with a brace closes it, a group ends. -/
theorem closesAt_one_iff {offset : Nat} :
    ClosesAt 1 inside offset ↔ IsGroupUpTo ('{' :: inside) (offset + 1) := by
  have hstep : ∀ length, nesting (('{' :: inside).take (length + 1)) =
      1 + nesting (inside.take length) := by
    intro length
    rw [List.take_succ_cons, nesting_cons, nesting_open]
  constructor
  · rintro ⟨hbrace, hlevel, habove⟩
    refine ⟨by simpa using hbrace, ?_, ?_⟩
    · rw [← nesting_eq_zero_iff, hstep]
      exact hlevel
    · have hlength : offset + 1 < ('{' :: inside).length := by
        have hlt := (List.getElem?_eq_some_iff.mp hbrace).1
        simpa using hlt
      rw [forall_proper_prefix_iff hlength]
      intro length hlt
      rw [← nesting_pos_iff, hstep]
      exact habove length (by omega)
  · rintro ⟨hbrace, heven, huneven⟩
    have hlength := (List.getElem?_eq_some_iff.mp hbrace).1
    rw [forall_proper_prefix_iff hlength] at huneven
    rw [← nesting_eq_zero_iff, hstep] at heven
    refine ⟨by simpa using hbrace, heven, ?_⟩
    intro length hle
    rw [← hstep, nesting_pos_iff]
    exact huneven length (by omega)

theorem closingBrace_cons (inside : List Char) :
    closingBrace? ('{' :: inside) = closingBraceFrom 1 1 inside := rfl

/-- The closing brace of a text is the end of its first group. -/
theorem closingBrace_eq_some_iff :
    closingBrace? ('{' :: inside) = some last ↔ 1 ≤ last ∧ IsGroupUpTo ('{' :: inside) last := by
  rw [closingBrace_cons, closingBraceFrom_eq_some_iff (by decide)]
  constructor
  · rintro ⟨offset, rfl, hcloses⟩
    rw [Nat.add_comm]
    exact ⟨Nat.le_add_left _ _, closesAt_one_iff.mp hcloses⟩
  · rintro ⟨hlast, hgroup⟩
    obtain ⟨offset, rfl⟩ := Nat.exists_eq_add_of_le' hlast
    exact ⟨offset, Nat.add_comm _ _, closesAt_one_iff.mpr hgroup⟩

/-- There is no closing brace if more braces are opened than closed in every front. -/
theorem closingBrace_eq_none_iff :
    closingBrace? ('{' :: inside) = none ↔
      ∀ front, front <+: '{' :: inside → front ≠ [] → front.count '}' < front.count '{' := by
  rw [closingBrace_cons, closingBraceFrom_eq_none_iff (by decide)]
  constructor
  · intro habove front hstarts hne
    cases front with
    | nil => exact absurd rfl hne
    | cons c front =>
        obtain ⟨rfl, hfront⟩ := List.cons_prefix_cons.mp hstarts
        rw [← nesting_pos_iff, nesting_cons, nesting_open, List.prefix_iff_eq_take.mp hfront]
        exact habove front.length
  · intro hfronts length
    have hfront := hfronts ('{' :: inside.take length)
      (List.cons_prefix_cons.mpr ⟨rfl, List.take_prefix _ _⟩) (List.cons_ne_nil _ _)
    rwa [← nesting_pos_iff, nesting_cons, nesting_open] at hfront

/-- A group that is split off stands at the start of the text. -/
theorem eq_of_splitGroup (hsplit : splitGroup? text = some (inside, rest)) :
    text = '{' :: (inside ++ '}' :: rest) := by
  unfold splitGroup? at hsplit
  split at hsplit
  · rename_i more
    obtain ⟨last, hlast, hparts⟩ := Option.bind_eq_some_iff.mp hsplit
    obtain ⟨hpos, hgroup⟩ := closingBrace_eq_some_iff.mp hlast
    obtain ⟨offset, rfl⟩ := Nat.exists_eq_add_of_le' hpos
    have hbrace : more[offset]? = some '}' := by simpa using hgroup.brace
    obtain ⟨hlt, hget⟩ := List.getElem?_eq_some_iff.mp hbrace
    simp only [Option.pure_def, Option.some.injEq, Prod.mk.injEq, Nat.add_sub_cancel,
      List.drop_succ_cons] at hparts
    rw [← hparts.1, ← hparts.2, ← hget, ← List.drop_eq_getElem_cons hlt, List.take_append_drop]
  · cases hsplit

/-! ### What is not blank -/

/-- The characters of a text that are not blank. -/
def solid (text : List Char) : List Char :=
  text.filter (!isBlank ·)

@[simp]
theorem solid_nil : solid [] = [] := rfl

@[simp]
theorem solid_append (text rest : List Char) : solid (text ++ rest) = solid text ++ solid rest :=
  List.filter_append ..

@[simp]
theorem solid_cons_of_not_blank (hc : isBlank c = false) (text : List Char) :
    solid (c :: text) = c :: solid text := by
  simp [solid, hc]

@[simp]
theorem isBlank_open : isBlank '{' = false := by decide

@[simp]
theorem isBlank_close : isBlank '}' = false := by decide

theorem solid_eq_nil_iff : solid text = [] ↔ ∀ c ∈ text, isBlank c := by
  simp [solid]

@[simp]
theorem solid_trimStart (text : List Char) : solid (trimStart text) = solid text := by
  have hblank : solid (text.takeWhile isBlank) = [] :=
    solid_eq_nil_iff.mpr fun _ => List.mem_takeWhile_imp
  calc
    solid (trimStart text) = solid (text.takeWhile isBlank) ++ solid (trimStart text) := by
      rw [hblank, List.nil_append]
    _ = solid text := by
      rw [← solid_append, trimStart, List.takeWhile_append_dropWhile]

@[simp]
theorem solid_trimEnd (text : List Char) : solid (trimEnd text) = solid text := by
  have hblank : solid (text.rtakeWhile isBlank) = [] :=
    solid_eq_nil_iff.mpr fun _ => List.mem_rtakeWhile_imp
  calc
    solid (trimEnd text) = solid (trimEnd text) ++ solid (text.rtakeWhile isBlank) := by
      rw [hblank, List.append_nil]
    _ = solid text := by
      rw [← solid_append, trimEnd, dropEndWhile_eq_rdropWhile,
        List.rdropWhile_append_rtakeWhile]

@[simp]
theorem solid_trim (text : List Char) : solid (trim text) = solid text := by
  rw [trim, solid_trimEnd, solid_trimStart]

theorem solid_firstWord (text : List Char) :
    solid (firstWord text).1 ++ solid (firstWord text).2 = solid text := by
  rw [firstWord, solid_trimStart, ← solid_append, List.takeWhile_append_dropWhile,
    solid_trimStart]

/-! ### The parts of a tag line -/

/-- A text starts with a group that has nothing but blanks in it. -/
def StartsBlank (text : List Char) : Prop :=
  ∃ blanks rest, text = '{' :: (blanks ++ '}' :: rest) ∧ ∀ c ∈ blanks, isBlank c

/-- The group in front of the name as the type shows it.  Without a type there is none,
unless the text starts with a blank group, which is dropped. -/
inductive LeadingGroup (text : List Char) : Option String → List Char → Prop where
  | type (type : String) : LeadingGroup text (some type) ('{' :: (type.toList ++ ['}']))
  | dropped (hblank : StartsBlank text) : LeadingGroup text none ['{', '}']
  | missing (hnone : ¬ StartsBlank text) : LeadingGroup text none []

theorem balanced_of_blank (htext : ∀ c ∈ text, isBlank c) : Balanced text := by
  induction text with
  | nil => exact .nil
  | cons c text ih =>
      rw [List.forall_mem_cons] at htext
      refine .char ?_ ?_ (ih htext.2)
      · rintro rfl
        exact absurd htext.1 (by decide)
      · rintro rfl
        exact absurd htext.1 (by decide)

/-- The group that is split off is blank if the text starts with a blank one. -/
theorem startsBlank_iff : StartsBlank text ↔
    ∃ inside rest, splitGroup? text = some (inside, rest) ∧ solid inside = [] := by
  constructor
  · rintro ⟨blanks, rest, rfl, hblanks⟩
    exact ⟨blanks, rest, splitGroup_eq (balanced_of_blank hblanks) rest,
      solid_eq_nil_iff.mpr hblanks⟩
  · rintro ⟨inside, rest, hsplit, hsolid⟩
    exact ⟨inside, rest, eq_of_splitGroup hsplit, solid_eq_nil_iff.mp hsolid⟩

theorem solid_splitName (text : List Char) :
    solid (splitName text).1 ++ solid (splitName text).2 = solid text := by
  unfold splitName
  split
  · rename_i inside rest hsplit
    rw [eq_of_splitGroup hsplit]
    simp
  · simpa using solid_firstWord text

/-- The split of a text takes off its leading group and loses only blanks. -/
theorem exists_leadingGroup (text : List Char) : ∃ group,
    LeadingGroup text ((splitType text).1.map .ofList) group ∧
      solid group ++ solid (splitType text).2 = solid text := by
  unfold splitType
  split
  · rename_i inside rest hsplit
    have htext : solid text = '{' :: (solid inside ++ '}' :: solid rest) := by
      simp [eq_of_splitGroup hsplit]
    dsimp only
    split
    · rename_i hempty
      have hinside : solid inside = [] := by
        rw [← solid_trim, List.isEmpty_iff.mp hempty]
        rfl
      exact ⟨_, .dropped (startsBlank_iff.mpr ⟨inside, rest, hsplit, hinside⟩),
        by simp [htext, hinside]⟩
    · exact ⟨_, .type _, by simp [htext]⟩
  · rename_i hsplit
    refine ⟨[], .missing ?_, by simp [solid]⟩
    rw [startsBlank_iff]
    rintro ⟨inside, rest, hgroup, -⟩
    cases hsplit.symm.trans hgroup

/-- The brace that closes the first one of a text is where a group ends: as many braces are
closed there as opened, for the first time.  None is found exactly if more braces are
opened than closed wherever the text is cut off.  The parts of a tag line are the line but
for blanks, where a blank group in front counts as empty braces. -/
theorem closingBrace_exact_and_content_kept :
    (∀ inside last, closingBrace? ('{' :: inside) = some last ↔
      1 ≤ last ∧ IsGroupUpTo ('{' :: inside) last) ∧
    (∀ inside, closingBrace? ('{' :: inside) = none ↔
      ∀ front, front <+: '{' :: inside → front ≠ [] → front.count '}' < front.count '{') ∧
    ∀ text, ∃ group, LeadingGroup (trim text) (TagBody.ofText text).type group ∧
      solid (group ++ (TagBody.ofText text).name.toList ++ (TagBody.ofText text).inline.toList) =
        solid text := by
  refine ⟨fun _ _ => closingBrace_eq_some_iff, fun _ => closingBrace_eq_none_iff, ?_⟩
  intro text
  obtain ⟨group, hgroup, hcontent⟩ := exists_leadingGroup (trim text)
  refine ⟨group, hgroup, ?_⟩
  simp only [TagBody.ofText, String.toList_ofList, solid_append, List.append_assoc,
    solid_splitName]
  rw [hcontent, solid_trim]

/-- A type with braces in it, a name in braces and a text. -/
def bracedLine : List Char :=
  "\x7bmap \x7bstring\x7d\x7d \x7bid of x\x7d rest".toList

/-- The outer braces are those of the type, and the inner ones stay in it. -/
theorem closingBrace_exact_and_content_kept_braced :
    closingBrace? bracedLine = some 13 ∧ IsGroupUpTo bracedLine 13 ∧
      ∃ group, LeadingGroup (trim bracedLine) (some "map \x7bstring\x7d") group ∧
        solid (group ++ "\x7bid of x\x7d".toList ++ "rest".toList) = solid bracedLine := by
  have hclosing : closingBrace? bracedLine = some 13 := by decide
  have hbody : TagBody.ofText bracedLine =
      ⟨some "map \x7bstring\x7d", "\x7bid of x\x7d", "rest"⟩ := by decide +kernel
  obtain ⟨hfound, -, hcontent⟩ := closingBrace_exact_and_content_kept
  have hkept := hcontent bracedLine
  rw [hbody] at hkept
  exact ⟨hclosing, ((hfound _ 13).mp hclosing).2, hkept⟩

end RouteScribe.Comment
