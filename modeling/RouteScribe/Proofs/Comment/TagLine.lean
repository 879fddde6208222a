import RouteScribe.Proofs.Comment.Sections
import RouteScribe.Proofs.Text.Indentation

/-!
# Writing and reading tags

A tag is written on a line of its own, with its type in curly braces, and the lines of its
continuation are indented below it.  The braces of a type are balanced, so the brace that
closes it is the one that was written for it, and a name ends where a blank does or where
its own brace is closed.  Reading the lines therefore gives the parts of the tag back.
-/

namespace RouteScribe.Comment

open RouteScribe.Text

variable {text inside rest name inline : List Char} {c : Char}

/-! ### Characters -/

def blankCodes : List Nat :=
  [0x09, 0x0A, 0x0B, 0x0C, 0x0D, 0x1C, 0x1D, 0x1E, 0x1F, 0x20, 0x85, 0xA0, 0x1680, 0x2000, 0x2001,
    0x2002, 0x2003, 0x2004, 0x2005, 0x2006, 0x2007, 0x2008, 0x2009, 0x200A, 0x2028, 0x2029, 0x202F,
    0x205F, 0x3000]

theorem mem_blankCodes (hc : isBlank c) : c.toNat ∈ blankCodes := by
  simp only [isBlank, Bool.or_eq_true, Bool.and_eq_true, decide_eq_true_eq, beq_iff_eq] at hc
  simp only [blankCodes, List.mem_cons, List.not_mem_nil, or_false]
  omega

/-- Characters of a kind that has no blank ones. -/
theorem isBlank_eq_false {holds : Char → Bool}
    (hcodes : ∀ code ∈ blankCodes, holds (Char.ofNat code) = false) (hc : holds c) :
    isBlank c = false := by
  cases hblank : isBlank c with
  | false => rfl
  | true =>
      have hnone := hcodes c.toNat (mem_blankCodes hblank)
      rw [Char.ofNat_toNat, hc] at hnone
      cases hnone

theorem isBlank_of_isKindChar (hc : isKindChar c) : isBlank c = false :=
  isBlank_eq_false (by decide +kernel) hc

theorem isBlank_of_isAlpha (hc : c.isAlpha) : isBlank c = false :=
  isBlank_eq_false (by decide +kernel) hc

theorem isBlank_of_isLineBreak (hc : isLineBreak c) : isBlank c := by
  simp only [isLineBreak, Bool.or_eq_true, Bool.and_eq_true, decide_eq_true_eq, beq_iff_eq] at hc
  simp only [isBlank, Bool.or_eq_true, Bool.and_eq_true, decide_eq_true_eq, beq_iff_eq]
  omega

theorem unbroken_of_noBlank (htext : ∀ c ∈ text, isBlank c = false) : Unbroken text := by
  intro c hc
  cases hbreak : isLineBreak c with
  | false => rfl
  | true =>
      have hblank := isBlank_of_isLineBreak hbreak
      rw [htext c hc] at hblank
      cases hblank

/-! ### Balanced braces -/

/-- A text in which every curly brace has its partner. -/
inductive Balanced : List Char → Prop where
  | nil : Balanced []
  | char {c : Char} {rest : List Char} (hopen : c ≠ '\x7b') (hclose : c ≠ '\x7d')
      (hrest : Balanced rest) : Balanced (c :: rest)
  | group {inside rest : List Char} (hinside : Balanced inside) (hrest : Balanced rest) :
      Balanced ('\x7b' :: (inside ++ '\x7d' :: rest))

theorem Balanced.of_noBrace {text : List Char} (hopen : '\x7b' ∉ text) (hclose : '\x7d' ∉ text) :
    Balanced text := by
  induction text with
  | nil => exact .nil
  | cons c text ih =>
      rw [List.mem_cons, not_or] at hopen hclose
      exact .char (Ne.symm hopen.1) (Ne.symm hclose.1) (ih hopen.2 hclose.2)

/-- A balanced text does not close a brace that was opened before it. -/
theorem closingBraceFrom_append (htext : Balanced text) {depth : Int} (hdepth : 0 < depth)
    (index : Nat) (rest : List Char) :
    closingBraceFrom depth index (text ++ rest) =
      closingBraceFrom depth (index + text.length) rest := by
  induction htext generalizing depth index rest with
  | nil => rfl
  | @char c text hopen hclose _ ih =>
      rw [List.cons_append, closingBraceFrom, ih hdepth]
      · rw [List.length_cons, Nat.add_right_comm, Nat.add_assoc]
      · exact hopen
      · exact hclose
  | @group inside text _ _ ihInside ihRest =>
      have hdeeper : depth + 1 - 1 ≠ 0 := by omega
      rw [List.cons_append, List.append_assoc, List.cons_append, closingBraceFrom,
        ihInside (by omega), closingBraceFrom, if_neg hdeeper, Int.add_sub_cancel, ihRest hdepth]
      congr 1
      simp only [List.length_cons, List.length_append]
      omega

/-- A balanced text in braces is the first group. -/
theorem splitGroup_eq (hinside : Balanced inside) (rest : List Char) :
    splitGroup? ('\x7b' :: (inside ++ '\x7d' :: rest)) = some (inside, rest) := by
  have hclosing : closingBrace? ('\x7b' :: (inside ++ '\x7d' :: rest)) =
      some (inside.length + 1) := by
    rw [closingBrace?, closingBraceFrom, closingBraceFrom_append hinside (by decide),
      closingBraceFrom]
    simp [Nat.add_comm]
  rw [splitGroup?, hclosing]
  simp

theorem splitGroup_eq_none (hopen : text.head? ≠ some '\x7b') : splitGroup? text = none := by
  cases text with
  | nil => rfl
  | cons c rest =>
      have hc : c ≠ '\x7b' := by
        rintro rfl
        exact hopen rfl
      rw [splitGroup?]
      rintro inside heq
      exact hc (List.cons.inj heq).1

/-! ### Names -/

/-- A word does not read as a group. -/
structure IsWord (name : List Char) : Prop where
  noBlank : ∀ c ∈ name, isBlank c = false
  noGroup : name.head? ≠ some '\x7b'

/-- A balanced text in braces. -/
def IsGroup (name : List Char) : Prop :=
  ∃ inside, Balanced inside ∧ name = '\x7b' :: (inside ++ ['\x7d'])

theorem trim_of_noBlank (htext : ∀ c ∈ text, isBlank c = false) : trim text = text := by
  rw [trim_eq_self_iff]
  constructor
  · cases text with
    | nil => rfl
    | cons c rest => exact trimStart_of_not_blank (htext c List.mem_cons_self) rest
  · rcases List.eq_nil_or_concat text with rfl | ⟨front, last, rfl⟩
    · rfl
    · rw [List.concat_eq_append] at htext ⊢
      exact List.rdropWhile_concat_neg _ _ _ (by simp [htext last])

theorem trim_braces (inside : List Char) :
    trim ('\x7b' :: (inside ++ ['\x7d'])) = '\x7b' :: (inside ++ ['\x7d']) := by
  have hopen : isBlank '\x7b' = false := by decide
  have hclose : trimEnd ['\x7d'] = ['\x7d'] := by decide
  rw [trim_eq_self_iff]
  constructor
  · exact trimStart_of_not_blank hopen _
  · rw [← List.cons_append]
    exact trimEnd_append_of_ne_nil _ hclose (by simp)

theorem trim_name (hname : IsWord name ∨ IsGroup name) : trim name = name := by
  rcases hname with hword | ⟨inside, -, rfl⟩
  · exact trim_of_noBlank hword.noBlank
  · exact trim_braces inside

@[simp]
theorem trim_addMargin_space (text : List Char) : trim (addMargin [' '] text) = trim text := by
  cases text with
  | nil => rfl
  | cons c rest => exact trim_cons_of_blank isBlank_space _

/-- A name and the text behind it are told apart again. -/
theorem firstWord_append (hname : ∀ c ∈ name, isBlank c = false) (hne : name ≠ [])
    (hinline : trim inline = inline) :
    firstWord (name ++ addMargin [' '] inline) = (name, inline) := by
  have hstart : trimStart (name ++ addMargin [' '] inline) = name ++ addMargin [' '] inline :=
    trimStart_append (trim_eq_self_iff.mp (trim_of_noBlank hname)).1 hne _
  have hword : ∀ c ∈ name, !isBlank c := by
    intro c hc
    rw [hname c hc]
    rfl
  have hspace : ∀ c ∈ (addMargin [' '] inline).head?, (!isBlank c) = false := by
    by_cases hnone : inline = []
    · simp [hnone]
    · simp [addMargin_of_ne_nil hnone]
  have htrimmed : trimStart (addMargin [' '] inline) = inline := by
    have hinlineStart := (trim_eq_self_iff.mp hinline).1
    unfold trimStart at hinlineStart ⊢
    by_cases hnone : inline = []
    · simp [hnone]
    · simp [addMargin_of_ne_nil hnone, hinlineStart]
  rw [firstWord, hstart, takeWhile_append_of_head hword hspace,
    dropWhile_append_of_head hword hspace, htrimmed]

/-- A name and the text after it are read apart. -/
theorem splitName_eq (hname : IsWord name ∨ IsGroup name) (hinline : trim inline = inline)
    (hempty : name = [] → inline = []) :
    splitName (name ++ addMargin [' '] inline) = (name, inline) := by
  rcases hname with hword | ⟨inside, hinside, rfl⟩
  · by_cases hne : name = []
    · rw [hempty hne, hne]
      rfl
    · have hhead : (name ++ addMargin [' '] inline).head? ≠ some '\x7b' := by
        rw [List.head?_append_of_ne_nil _ hne]
        exact hword.noGroup
      rw [splitName, splitGroup_eq_none hhead, firstWord_append hword.noBlank hne hinline]
      simp [hinline]
  · rw [List.cons_append, List.append_assoc, List.cons_append, List.nil_append, splitName,
      splitGroup_eq hinside]
    simp [hinline]

/-- A name and the text after it are trimmed. -/
theorem trim_name_append (hname : IsWord name ∨ IsGroup name) (hinline : trim inline = inline)
    (hempty : name = [] → inline = []) :
    trim (name ++ addMargin [' '] inline) = name ++ addMargin [' '] inline := by
  by_cases hne : name = []
  · rw [hempty hne, hne]
    rfl
  · obtain ⟨hstart, hend⟩ := trim_eq_self_iff.mp (trim_name hname)
    have hinlineEnd := trimEnd_addMargin [' '] (trim_eq_self_iff.mp hinline).2
    rw [trim_eq_self_iff]
    constructor
    · exact trimStart_append hstart hne _
    · rw [trimEnd_append hend, hinlineEnd]

/-- With a space in front they stand in a tag line. -/
theorem trim_addMargin_append (hname : IsWord name ∨ IsGroup name)
    (hinline : trim inline = inline) (hempty : name = [] → inline = []) :
    trim (addMargin [' '] name ++ addMargin [' '] inline) = name ++ addMargin [' '] inline := by
  have htrim := trim_name_append hname hinline hempty
  by_cases hne : name = []
  · rw [hempty hne, hne]
    rfl
  · rw [addMargin_of_ne_nil hne, List.append_assoc, List.singleton_append,
      trim_cons_of_blank isBlank_space, htrim]

/-- A text that starts with a word has no type. -/
theorem splitType_of_isWord (hname : IsWord name) (hempty : name = [] → inline = []) :
    splitType (name ++ addMargin [' '] inline) = (none, name ++ addMargin [' '] inline) := by
  have hhead : (name ++ addMargin [' '] inline).head? ≠ some '\x7b' := by
    by_cases hne : name = []
    · rw [hempty hne, hne]
      decide
    · rw [List.head?_append_of_ne_nil _ hne]
      exact hname.noGroup
  rw [splitType, splitGroup_eq_none hhead]

/-! ### Tags to be written -/

/-- The parts of a tag in a form in which they can be written. -/
structure TagDraft where
  kind : List Char
  type : Option (List Char)
  name : List Char
  inline : List Char
  /-- The lines of the continuation. -/
  continuation : List (List Char)
  isKind : ∃ letter rest, kind = letter :: rest ∧ letter.isAlpha ∧ ∀ c ∈ rest, isKindChar c
  typeBalanced : ∀ text ∈ type, Balanced text
  typeTrimmed : ∀ text ∈ type, trim text = text
  typeUnbroken : ∀ text ∈ type, Unbroken text
  /-- A name in braces would be the type if there were none. -/
  isName : IsWord name ∨ type.isSome ∧ IsGroup name
  nameUnbroken : Unbroken name
  inlineTrimmed : trim inline = inline
  inlineUnbroken : Unbroken inline
  inline_of_name : name = [] → inline = []
  linesTrimmed : ∀ line ∈ continuation, trimEnd line = line
  linesUnbroken : ∀ line ∈ continuation, Unbroken line
  linesFree : ∀ line ∈ continuation, tagLine? (trim line) = none
  firstLine : ∀ line ∈ continuation.head?, isBlankText line = false
  lastLine : ∀ line ∈ continuation.getLast?, isBlankText line = false
  noIndent : sharedIndent continuation = []

namespace TagDraft

/-- The type in braces with a space in front. -/
def typeText (draft : TagDraft) : List Char :=
  match draft.type with
  | none => []
  | some text => ' ' :: '\x7b' :: (text ++ ['\x7d'])

def body (draft : TagDraft) : List Char :=
  draft.typeText ++ addMargin [' '] draft.name ++ addMargin [' '] draft.inline

def head (draft : TagDraft) : List Char :=
  '@' :: (draft.kind ++ draft.body)

/-- The lines of a tag as they stand in a comment, after its marks. -/
def lines (draft : TagDraft) : List (List Char) :=
  draft.head :: draft.continuation.map ([' ', ' '] ++ ·)

def following (draft : TagDraft) : List (List Char) :=
  draft.continuation.map (addMargin [' ', ' '])

/-- The tag, if it stands in the given line of a comment.  Empty braces are read as no
type. -/
def toTag (draft : TagDraft) (line : Nat) : Tag :=
  { kind := .ofList draft.kind
    type := (draft.type.filter (· ≠ [])).map .ofList
    name := .ofList draft.name
    inline := .ofList draft.inline
    continuation := .ofList (joinLines draft.continuation)
    line
    source := .ofList (joinLines (draft.head :: draft.following)) }

variable (draft : TagDraft)

theorem isWord_or_isGroup : IsWord draft.name ∨ IsGroup draft.name :=
  draft.isName.imp_right And.right

theorem kind_noBlank : ∀ c ∈ draft.kind, isBlank c = false := by
  obtain ⟨letter, rest, hkind, hletter, hrest⟩ := draft.isKind
  rw [hkind, List.forall_mem_cons]
  exact ⟨isBlank_of_isAlpha hletter, fun c hc => isBlank_of_isKindChar (hrest c hc)⟩

theorem trimEnd_tail : trimEnd (addMargin [' '] draft.name ++ addMargin [' '] draft.inline) =
    addMargin [' '] draft.name ++ addMargin [' '] draft.inline := by
  have hname := (trim_eq_self_iff.mp (trim_name draft.isWord_or_isGroup)).2
  have hinline := (trim_eq_self_iff.mp draft.inlineTrimmed).2
  rw [trimEnd_append (trimEnd_addMargin [' '] hname), trimEnd_addMargin [' '] hinline]

/-- What follows the kind of a tag starts with a space. -/
theorem body_head : ∀ c ∈ draft.body.head?, c = ' ' := by
  unfold body typeText
  cases draft.type with
  | some text => simp
  | none =>
      by_cases hne : draft.name = []
      · simp [draft.inline_of_name hne, hne]
      · simp [addMargin_of_ne_nil hne]

theorem trimEnd_body : trimEnd draft.body = draft.body := by
  have hclose : trimEnd ['\x7d'] = ['\x7d'] := by decide
  have htype : trimEnd draft.typeText = draft.typeText := by
    unfold typeText
    cases draft.type with
    | none => rfl
    | some text => exact trimEnd_append_of_ne_nil (' ' :: '\x7b' :: text) hclose (by simp)
  rw [body, List.append_assoc, trimEnd_append htype, draft.trimEnd_tail]

/-- What is read from the part of a tag line after the kind. -/
theorem ofText_body : TagBody.ofText draft.body =
    { type := (draft.type.filter (· ≠ [])).map .ofList
      name := .ofList draft.name
      inline := .ofList draft.inline } := by
  have hname := draft.isWord_or_isGroup
  have htail := trim_addMargin_append hname draft.inlineTrimmed draft.inline_of_name
  have hsplit := splitName_eq hname draft.inlineTrimmed draft.inline_of_name
  unfold TagBody.ofText body typeText
  cases htype : draft.type with
  | none =>
      have hword : IsWord draft.name := by
        apply draft.isName.resolve_right
        rintro ⟨hsome, -⟩
        rw [htype] at hsome
        cases hsome
      rw [List.nil_append, htail, splitType_of_isWord hword draft.inline_of_name]
      dsimp only
      rw [hsplit]
      rfl
  | some text =>
      have hopen : isBlank '\x7b' = false := by decide
      have hbraces := (trim_eq_self_iff.mp (trim_braces text)).2
      have hbody : trim (' ' :: '\x7b' :: (text ++ ['\x7d']) ++ addMargin [' '] draft.name ++
            addMargin [' '] draft.inline) =
          '\x7b' :: (text ++ '\x7d' ::
            (addMargin [' '] draft.name ++ addMargin [' '] draft.inline)) := by
        rw [List.append_assoc, List.cons_append, trim_cons_of_blank isBlank_space, trim,
          List.cons_append, trimStart_of_not_blank hopen, ← List.cons_append,
          trimEnd_append hbraces, draft.trimEnd_tail]
        simp
      rw [hbody, splitType, splitGroup_eq (draft.typeBalanced text htype)]
      dsimp only
      rw [draft.typeTrimmed text htype, htail, hsplit]
      by_cases hne : text = []
      · simp [hne, Option.filter_some]
      · simp [hne, Option.filter_some]

/-- A tag line is recognized, and its kind ends where the space is. -/
theorem tagLine_head : tagLine? draft.head = some (draft.kind, draft.body) := by
  obtain ⟨letter, rest, hkind, hletter, hrest⟩ := draft.isKind
  have hspace : isKindChar ' ' = false := by decide
  have hboundary : ∀ c ∈ draft.body.head?, isKindChar c = false := by
    intro c hc
    rw [draft.body_head c hc, hspace]
  rw [head, hkind, List.cons_append, tagLine?, if_pos hletter,
    takeWhile_append_of_head hrest hboundary, dropWhile_append_of_head hrest hboundary]

theorem trim_head : trim draft.head = draft.head := by
  have hsign : isBlank '@' = false := by decide
  have hstart : ∀ c ∈ '@' :: draft.kind, isBlank c = false :=
    List.forall_mem_cons.mpr ⟨hsign, draft.kind_noBlank⟩
  rw [trim_eq_self_iff]
  constructor
  · exact trimStart_of_not_blank hsign _
  · rw [head, ← List.cons_append, trimEnd_append (trim_eq_self_iff.mp (trim_of_noBlank hstart)).2,
      draft.trimEnd_body]

theorem unbroken_typeText : Unbroken draft.typeText := by
  unfold typeText
  cases htype : draft.type with
  | none => exact List.forall_mem_nil _
  | some text =>
      have hopen : Unbroken [' ', '\x7b'] := by decide
      have hclose : Unbroken ['\x7d'] := by decide
      exact hopen.append ((draft.typeUnbroken text htype).append hclose)

/-- No written line holds a line end. -/
theorem unbroken_of_mem_lines : ∀ line ∈ draft.lines, Unbroken line := by
  have hsign : Unbroken ['@'] := by decide
  have hspace : Unbroken [' '] := by decide
  have hmargin : Unbroken [' ', ' '] := by decide
  have hkind := unbroken_of_noBlank draft.kind_noBlank
  have hbody : Unbroken draft.body :=
    (draft.unbroken_typeText.append (unbroken_addMargin hspace draft.nameUnbroken)).append
      (unbroken_addMargin hspace draft.inlineUnbroken)
  refine List.forall_mem_cons.mpr ⟨hsign.append (hkind.append hbody), ?_⟩
  rw [List.forall_mem_map]
  intro line hline
  exact hmargin.append (draft.linesUnbroken line hline)

/-- The blanks at the end of a line are all that is lost of it. -/
theorem map_trimEnd_lines : draft.lines.map trimEnd = draft.head :: draft.following := by
  rw [lines, following, List.map_cons, List.map_map, (trim_eq_self_iff.mp draft.trim_head).2]
  congr 1
  rw [List.map_inj_left]
  intro line hline
  rw [Function.comp_apply]
  by_cases hne : line = []
  · rw [hne]
    decide
  · rw [addMargin_of_ne_nil hne, trimEnd_append_of_ne_nil _ (draft.linesTrimmed line hline) hne]

theorem linesUnbroken_following : ∀ line ∈ draft.following, Unbroken line := by
  have hmargin : Unbroken [' ', ' '] := by decide
  unfold following
  rw [List.forall_mem_map]
  intro line hline
  exact unbroken_addMargin hmargin (draft.linesUnbroken line hline)

/-- The margin of the continuation is removed, and nothing else of it. -/
theorem dedent_following :
    trimNewlines (dedent (joinLines draft.following)) = joinLines draft.continuation := by
  have hmargin : ∀ c ∈ [' ', ' '], isIndent c := by simp [isIndent]
  have hlines : ∀ line ∈ draft.continuation, '\n' ∉ line :=
    fun line hline => (draft.linesUnbroken line hline).not_mem
  rw [dedent_joinLines fun line hline => (draft.linesUnbroken_following line hline).not_mem,
    following, dedentLines_addMargin hmargin draft.linesTrimmed draft.noIndent]
  apply trimNewlines_joinLines hlines
  · intro hnil
    exact ne_nil_of_isBlankText (draft.firstLine [] hnil) rfl
  · intro hnil
    exact ne_nil_of_isBlankText (draft.lastLine [] hnil) rfl

/-- The text of a tag has no blanks at its end. -/
theorem trimEnd_source :
    trimEnd (joinLines (draft.head :: draft.following)) =
      joinLines (draft.head :: draft.following) := by
  apply trimEnd_joinLines
  intro line hline
  cases hlast : draft.continuation.getLast? with
  | none =>
      have hnone : draft.following = [] := by
        rw [following, List.getLast?_eq_none_iff.mp hlast, List.map_nil]
      rw [hnone] at hline
      obtain rfl := Option.some.inj hline
      exact ⟨(trim_eq_self_iff.mp draft.trim_head).2, List.cons_ne_nil _ _⟩
  | some last =>
      have hend : (draft.head :: draft.following).getLast? = some (addMargin [' ', ' '] last) := by
        rw [List.getLast?_cons, following, List.getLast?_map, hlast]
        rfl
      have hne := ne_nil_of_isBlankText (draft.lastLine last hlast)
      have htrimmed := draft.linesTrimmed last (List.mem_of_getLast? hlast)
      rw [hend] at hline
      obtain rfl := Option.some.inj hline
      refine ⟨trimEnd_addMargin _ htrimmed, ?_⟩
      simp [addMargin_of_ne_nil hne]

/-- A written tag is read back. -/
theorem toTag_section (line : Nat) :
    Section.toTag { line, head := draft.head, kind := draft.kind, body := draft.body,
                    following := draft.following } = draft.toTag line := by
  simp only [Section.toTag, toTag, draft.ofText_body, draft.dedent_following,
    draft.trimEnd_source]

/-- The lines below a tag line are no tag lines. -/
theorem tagLine_of_mem_following :
    ∀ content ∈ draft.following, tagLine? (trim content) = none := by
  unfold following
  rw [List.forall_mem_map]
  intro line hline
  have htrim : trim (addMargin [' ', ' '] line) = trim line := by
    by_cases hne : line = []
    · rw [hne, addMargin_nil]
    · have hblank : ∀ c ∈ [' ', ' '], isBlank c := by simp
      rw [addMargin_of_ne_nil hne, ← List.append_nil ([' ', ' '] ++ line)]
      exact trim_append_of_blank hblank line (List.forall_mem_nil _)
  rw [htrim]
  exact draft.linesFree line hline

end TagDraft

end RouteScribe.Comment
