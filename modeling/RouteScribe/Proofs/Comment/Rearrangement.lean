import Mathlib.Data.List.Forall2
import RouteScribe.Proofs.Comment.Partition

/-!
# Comments with their tags in another order

The lines of a comment are free lines followed by parts: a tag line and the lines up to the
next one.  A tag is made from its part alone, apart from the number of its line, which counts
the lines before it.  Where the parts are rearranged and those of one kind keep their order,
the tags of each kind are therefore the same up to the numbers of their lines.
-/

namespace RouteScribe.Comment

open RouteScribe.Text

/-! ### Parts of a comment -/

/-- A line of a comment that is no tag line. -/
def IsFree (line : List Char) : Prop :=
  tagLine? (trim (stripMarks line)) = none

instance : DecidablePred IsFree :=
  fun line => inferInstanceAs (Decidable (tagLine? (trim (stripMarks line)) = none))

/-- A tag line with the lines up to the next one, as they stand in a comment. -/
structure TagPart where
  head : List Char
  following : List (List Char)
  isTag : (tagLine? (trim (stripMarks head))).isSome
  isFree : ∀ line ∈ following, IsFree line

namespace TagPart

def lines (part : TagPart) : List (List Char) :=
  part.head :: part.following

def toSection (part : TagPart) (line : Nat) : Section where
  line
  head := trim (stripMarks part.head)
  kind := ((tagLine? (trim (stripMarks part.head))).get part.isTag).1
  body := ((tagLine? (trim (stripMarks part.head))).get part.isTag).2
  following := part.following.map stripMarks

def toTag (part : TagPart) (line : Nat) : Tag :=
  (part.toSection line).toTag

def kind (part : TagPart) : String :=
  (part.toTag 0).kind

end TagPart

/-- The lines of a text are free lines followed by parts. -/
structure Written (text : String) (free : List (List Char)) (parts : List TagPart) : Prop where
  lines : splitLines text.toList = free ++ parts.flatMap TagPart.lines
  isFree : ∀ line ∈ free, IsFree line

/-- Every list of lines falls into free lines and parts that begin with a tag. -/
theorem exists_parts (lines : List (List Char)) :
    ∃ (free : List (List Char)) (parts : List TagPart),
      lines = free ++ parts.flatMap TagPart.lines ∧ ∀ line ∈ free, IsFree line := by
  induction lines with
  | nil => exact ⟨[], [], rfl, List.forall_mem_nil _⟩
  | cons line lines ih =>
      obtain ⟨free, parts, rfl, hfree⟩ := ih
      cases htag : tagLine? (trim (stripMarks line)) with
      | none => exact ⟨line :: free, parts, rfl, List.forall_mem_cons.mpr ⟨htag, hfree⟩⟩
      | some words =>
          refine ⟨[], ⟨line, free, by rw [htag]; rfl, hfree⟩ :: parts, ?_, List.forall_mem_nil _⟩
          rfl

/-- Every comment is written so. -/
theorem exists_written (text : String) : ∃ free parts, Written text free parts := by
  obtain ⟨free, parts, hlines, hfree⟩ := exists_parts (splitLines text.toList)
  exact ⟨free, parts, hlines, hfree⟩

/-! ### Parts and those before them -/

/-- A part of a comment and the parts before it. -/
structure Place where
  before : List TagPart
  part : TagPart

/-- The number of lines before a part. -/
def Place.offset (place : Place) : Nat :=
  (place.before.flatMap TagPart.lines).length

/-- A place with one more part in front. -/
def Place.after (first : TagPart) (place : Place) : Place :=
  ⟨first :: place.before, place.part⟩

def places : List TagPart → List Place
  | [] => []
  | part :: parts => ⟨[], part⟩ :: (places parts).map (Place.after part)

theorem map_part_places (parts : List TagPart) : (places parts).map Place.part = parts := by
  induction parts with
  | nil => rfl
  | cons part parts ih =>
      rw [places, List.map_cons, List.map_map]
      exact congrArg (part :: ·) ih

theorem mem_places {parts : List TagPart} {place : Place} (hplace : place ∈ places parts) :
    ∃ others, parts = place.before ++ place.part :: others := by
  induction parts generalizing place with
  | nil => cases hplace
  | cons part parts ih =>
      rcases List.mem_cons.mp hplace with rfl | hrest
      · exact ⟨parts, rfl⟩
      · obtain ⟨inner, hinner, rfl⟩ := List.mem_map.mp hrest
        obtain ⟨others, hothers⟩ := ih hinner
        exact ⟨others, congrArg (part :: ·) hothers⟩

def ofKind (kind : String) (parts : List TagPart) : List TagPart :=
  parts.filter (·.kind = kind)

def placesOf (kind : String) (parts : List TagPart) : List Place :=
  (places parts).filter (·.part.kind = kind)

theorem map_part_placesOf (kind : String) (parts : List TagPart) :
    (placesOf kind parts).map Place.part = ofKind kind parts := by
  have hfilter := List.filter_map (p := fun part : TagPart => decide (part.kind = kind))
    (f := Place.part) (l := places parts)
  rw [map_part_places] at hfilter
  exact hfilter.symm

/-- A place without the parts of other kinds before it. -/
def Place.among (kind : String) (place : Place) : Place :=
  ⟨ofKind kind place.before, place.part⟩

/-- The places of the parts of one kind are those among the parts of that kind. -/
theorem map_among_placesOf (kind : String) (parts : List TagPart) :
    (placesOf kind parts).map (Place.among kind) = places (ofKind kind parts) := by
  induction parts with
  | nil => rfl
  | cons part parts ih =>
      -- One more part in front is a part before all others, but only among those of its kind.
      have hrest : ((places parts).map (Place.after part)).filter (·.part.kind = kind) =
          (placesOf kind parts).map (Place.after part) := List.filter_map
      by_cases hkind : part.kind = kind
      · have hafter : Place.among kind ∘ Place.after part =
            Place.after part ∘ Place.among kind := by
          funext place
          simp [Place.among, Place.after, ofKind, hkind]
        have hothers : ofKind kind (part :: parts) = part :: ofKind kind parts := by
          simp [ofKind, hkind]
        rw [placesOf, places, List.filter_cons_of_pos (by simpa using hkind), hrest,
          List.map_cons, List.map_map, hafter, ← List.map_map, ih, hothers]
        rfl
      · have hafter : Place.among kind ∘ Place.after part = Place.among kind := by
          funext place
          simp [Place.among, Place.after, ofKind, hkind]
        have hothers : ofKind kind (part :: parts) = ofKind kind parts := by
          simp [ofKind, hkind]
        rw [placesOf, places, List.filter_cons_of_neg (by simpa using hkind), hrest,
          List.map_map, hafter, ih, hothers]

/-! ### Rearranging the parts -/

/-- The same parts in an order that differs for parts of different kinds only. -/
def Rearranges (parts others : List TagPart) : Prop :=
  ∀ kind, ofKind kind parts = ofKind kind others

/-- Neighbours of different kinds may change their places. -/
theorem Rearranges.swap {first second : TagPart} (hkinds : first.kind ≠ second.kind)
    (before after : List TagPart) :
    Rearranges (before ++ first :: second :: after) (before ++ second :: first :: after) := by
  intro kind
  by_cases hfirst : first.kind = kind
  · have hsecond : second.kind ≠ kind := fun hsecond => hkinds (hfirst.trans hsecond.symm)
    simp [ofKind, hfirst, hsecond]
  · simp [ofKind, hfirst, List.filter_cons]

theorem Rearranges.mem_iff {parts others : List TagPart} (hparts : Rearranges parts others)
    (part : TagPart) : part ∈ parts ↔ part ∈ others := by
  have hmem : ∀ parts, part ∈ parts ↔ part ∈ ofKind part.kind parts := by
    intro parts
    simp [ofKind]
  rw [hmem parts, hparts part.kind, ← hmem others]

/-- The places of one part in two arrangements: the parts of its kind before it are the
same. -/
structure Counterparts (parts others : List TagPart) (place other : Place) : Prop where
  part : place.part = other.part
  before : ofKind place.part.kind place.before = ofKind place.part.kind other.before
  within : ∃ after, parts = place.before ++ place.part :: after
  otherWithin : ∃ after, others = other.before ++ other.part :: after

/-- In a rearrangement every part has its counterpart, in the same order for each kind. -/
theorem Rearranges.forall₂_placesOf {parts others : List TagPart}
    (hparts : Rearranges parts others) (kind : String) :
    List.Forall₂ (Counterparts parts others) (placesOf kind parts) (placesOf kind others) := by
  have hpairs : List.Forall₂ Eq ((placesOf kind parts).map (Place.among kind))
      ((placesOf kind others).map (Place.among kind)) := by
    rw [List.forall₂_eq_eq_eq, map_among_placesOf, map_among_placesOf, hparts kind]
  rw [List.forall₂_map_left_iff, List.forall₂_map_right_iff, List.forall₂_iff_zip] at hpairs
  rw [List.forall₂_iff_zip]
  refine ⟨hpairs.1, ?_⟩
  intro place other hmem
  have hsame := hpairs.2 hmem
  obtain ⟨hplace, hother⟩ := List.of_mem_zip hmem
  obtain rfl : place.part.kind = kind := of_decide_eq_true (List.mem_filter.mp hplace).2
  obtain ⟨hbefore, hpart⟩ := Place.mk.inj hsame
  exact ⟨hpart, hbefore, mem_places (List.mem_filter.mp hplace).1,
    mem_places (List.mem_filter.mp hother).1⟩

/-! ### What is read from a rearranged comment -/

/-- The sections of parts that stand one after the other. -/
theorem splitSections_parts (number : Nat) (parts : List TagPart) :
    splitSections number ((parts.flatMap TagPart.lines).map stripMarks) =
      ([], (places parts).map fun place => place.part.toSection (number + place.offset)) := by
  induction parts generalizing number with
  | nil => rfl
  | cons part parts ih =>
      have htag : tagLine? (trim (stripMarks part.head)) =
          some ((tagLine? (trim (stripMarks part.head))).get part.isTag) :=
        (Option.some_get part.isTag).symm
      have hfree : ∀ content ∈ part.following.map stripMarks, tagLine? (trim content) = none :=
        List.forall_mem_map.mpr part.isFree
      -- The sections of the other parts start after the lines of the first one.
      have hoffset : ∀ place : Place, number + (place.after part).offset =
          number + 1 + (part.following.map stripMarks).length + place.offset := by
        intro place
        simp only [Place.offset, Place.after, List.flatMap_cons, List.length_append,
          List.length_map, TagPart.lines, List.length_cons]
        omega
      rw [List.flatMap_cons, List.map_append, TagPart.lines, List.map_cons, List.cons_append,
        splitSections_cons htag, splitSections_append hfree, ih, List.append_nil, places,
        List.map_cons, List.map_map]
      congr 2
      apply List.map_congr_left
      intro place _
      rw [Function.comp_apply, hoffset place]
      rfl

def DocComment.ofParts (free : List (List Char)) (parts : List TagPart) : DocComment :=
  .ofSections (free.map stripMarks)
    ((places parts).map fun place => place.part.toSection (free.length + place.offset))

/-- What is read from a text depends on its parts alone. -/
theorem Written.parse?_eq {text : String} {free : List (List Char)} {parts : List TagPart}
    (hwritten : Written text free parts) :
    DocComment.parse? text =
      if ∀ line ∈ free ++ parts.flatMap TagPart.lines, isBlankText (stripMarks line) then none
      else some (.ofParts free parts) := by
  have hcontents : contentLines text.toList =
      free.map stripMarks ++ (parts.flatMap TagPart.lines).map stripMarks := by
    rw [contentLines, hwritten.lines, List.map_append]
  have hfree : ∀ content ∈ free.map stripMarks, tagLine? (trim content) = none :=
    List.forall_mem_map.mpr hwritten.isFree
  have hsections : splitSections 0 (contentLines text.toList) =
      (free.map stripMarks,
        (places parts).map fun place => place.part.toSection (free.length + place.offset)) := by
    rw [hcontents, splitSections_append hfree, splitSections_parts, List.append_nil, Nat.zero_add,
      List.length_map]
  have hblank : (contentLines text.toList).all isBlankText ↔
      ∀ line ∈ free ++ parts.flatMap TagPart.lines, isBlankText (stripMarks line) := by
    rw [hcontents, ← List.map_append, List.all_map, List.all_eq_true]
    rfl
  rw [DocComment.parse?_eq, hsections]
  exact if_congr hblank rfl rfl

theorem tagsOf_ofParts (free : List (List Char)) (parts : List TagPart) (kind : String) :
    (DocComment.ofParts free parts).tagsOf kind =
      (placesOf kind parts).map fun place => place.part.toTag (free.length + place.offset) := by
  rw [DocComment.tagsOf, DocComment.ofParts, DocComment.ofSections, List.map_map, List.filter_map]
  rfl

/-- What is made of the tags of a kind, if the numbers of their lines do not matter. -/
theorem map_tagsOf_ofParts {α : Type} {make : Tag → α}
    (hmake : ∀ (tag : Tag) (line : Nat), make { tag with line } = make tag)
    (free : List (List Char)) (parts : List TagPart) (kind : String) :
    ((DocComment.ofParts free parts).tagsOf kind).map make =
      (ofKind kind parts).map fun part => make (part.toTag 0) := by
  rw [tagsOf_ofParts, ← map_part_placesOf, List.map_map, List.map_map]
  apply List.map_congr_left
  intro place _
  exact (hmake (place.part.toTag (free.length + place.offset)) 0).symm

/-- The tags of one part in two arrangements. -/
def Tag.MovesAlong (free : List (List Char)) (parts others : List TagPart) (tag other : Tag) :
    Prop :=
  ∃ place counterpart, Counterparts parts others place counterpart ∧
    tag.line = free.length + place.offset ∧
    other = { tag with line := free.length + counterpart.offset }

/-- Tags of one kind stay in their order and move along with their parts. -/
theorem Rearranges.forall₂_tagsOf {parts others : List TagPart} (hparts : Rearranges parts others)
    (free : List (List Char)) (kind : String) :
    List.Forall₂ (Tag.MovesAlong free parts others)
      ((DocComment.ofParts free parts).tagsOf kind)
      ((DocComment.ofParts free others).tagsOf kind) := by
  rw [tagsOf_ofParts, tagsOf_ofParts, List.forall₂_map_left_iff, List.forall₂_map_right_iff]
  apply (hparts.forall₂_placesOf kind).imp
  intro place counterpart hcounterparts
  refine ⟨place, counterpart, hcounterparts, rfl, ?_⟩
  rw [← hcounterparts.part]
  rfl

/-- A rearranged comment is read if the comment is. -/
theorem Rearranges.parse?_eq {text other : String} {free : List (List Char)}
    {parts others : List TagPart} (hparts : Rearranges parts others)
    (htext : Written text free parts) (hother : Written other free others) :
    (DocComment.parse? text = none ∧ DocComment.parse? other = none) ∨
      (DocComment.parse? text = some (.ofParts free parts) ∧
        DocComment.parse? other = some (.ofParts free others)) := by
  have hblank : (∀ line ∈ free ++ parts.flatMap TagPart.lines, isBlankText (stripMarks line)) ↔
      ∀ line ∈ free ++ others.flatMap TagPart.lines, isBlankText (stripMarks line) := by
    simp only [List.mem_append, List.mem_flatMap, hparts.mem_iff]
  rw [htext.parse?_eq, hother.parse?_eq, if_congr hblank rfl rfl]
  split
  · exact .inl ⟨rfl, rfl⟩
  · exact .inr ⟨rfl, rfl⟩

end RouteScribe.Comment
