import RouteScribe.Proofs.Comment.Rearrangement
import RouteScribe.Proofs.Route.Report
import RouteScribe.Route.Block

/-!
# Tags of different kinds

The documentation of a route takes the tags of its comment kind by kind.  What it makes of
a tag does not depend on the line where the tag stands, apart from the lines of diagnostics.
Comments whose tags are rearranged, without a change in the order of tags of one kind, are
therefore documented alike, and their diagnostics move along with the tags.
-/

namespace RouteScribe.Route

open RouteScribe.Blueprint RouteScribe.Comment RouteScribe.Text

/-! ### Computations that report alike -/

namespace Reported

variable {ε α β γ : Type} {related : Diagnostic → Diagnostic → Prop}

/-- Two computations with the same outcome and with diagnostics that are related one by one. -/
structure Alike (related : Diagnostic → Diagnostic → Prop) (left right : Reported ε α) : Prop where
  diagnostics : List.Forall₂ related left.diagnostics right.diagnostics
  result : left.result = right.result

namespace Alike

theorem of_quiet {reported : Reported ε α} (hquiet : reported.diagnostics = []) :
    Alike related reported reported := by
  constructor
  · rw [hquiet]
    exact .nil
  · rfl

theorem mono {stronger : Diagnostic → Diagnostic → Prop} {left right : Reported ε α}
    (halike : Alike stronger left right)
    (himplies : ∀ diagnostic other, stronger diagnostic other → related diagnostic other) :
    Alike related left right :=
  ⟨halike.diagnostics.imp himplies, halike.result⟩

/-- Alike results, taken further alike, are alike. -/
theorem bind {left right : Reported ε α} {next other : α → Reported ε β}
    (halike : Alike related left right)
    (hnext : ∀ value, Alike related (next value) (other value)) :
    Alike related (left >>= next) (right >>= other) := by
  cases hleft : left.result with
  | ok value =>
      have hright : right.result = .ok value := halike.result ▸ hleft
      rw [bind_of_ok hleft, bind_of_ok hright]
      exact ⟨List.rel_append halike.diagnostics (hnext value).diagnostics, (hnext value).result⟩
  | error error =>
      have hright : right.result = .error error := halike.result ▸ hleft
      rw [bind_of_error hleft, bind_of_error hright]
      exact ⟨halike.diagnostics, rfl⟩

/-- Going through items that are alike one by one gives alike results. -/
theorem forEach {act : α → Reported ε γ} {other : β → Reported ε γ} {items : List α}
    {others : List β}
    (hitems : List.Forall₂ (fun item counterpart => Alike related (act item) (other counterpart))
      items others) :
    Alike related (Reported.forEach act items) (Reported.forEach other others) := by
  induction hitems with
  | nil => exact of_quiet rfl
  | cons hitem _ ih =>
      apply hitem.bind
      intro value
      apply ih.bind
      intro values
      exact of_quiet rfl

end Alike

end Reported

/-! ### One tag in two lines -/

/-- Two diagnostics that differ in their lines only, which are given. -/
def MovesFrom (line other : Nat) (left right : Diagnostic) : Prop :=
  left.line = line ∧ right = { left with line := other }

variable {context : Context} {line other : Nat}

theorem reportError_alike {ε : Type} (message : String) :
    Reported.Alike (MovesFrom line other) (context.reportError line message : Reported ε Unit)
      (context.reportError other message) :=
  ⟨.cons ⟨rfl, rfl⟩ .nil, rfl⟩

theorem reportError_bind_alike {ε α : Type} {message : String} {next : Unit → Reported ε α}
    (hquiet : (next ()).diagnostics = []) :
    Reported.Alike (MovesFrom line other) (context.reportError line message >>= next)
      (context.reportError other message >>= next) :=
  (reportError_alike message).bind fun _ => .of_quiet hquiet

/-- A type is resolved alike wherever its tag stands, and its diagnostic moves along. -/
theorem typedOf_alike (type : String) :
    Reported.Alike (MovesFrom line other) (typedOf context type line)
      (typedOf context type other) := by
  unfold typedOf
  split
  · exact reportError_bind_alike rfl
  · exact .of_quiet rfl
  · dsimp only
    split
    · exact .of_quiet rfl
    · exact reportError_bind_alike rfl
    · exact .of_quiet rfl

theorem typedOf_bind_alike {α : Type} (type : String) (next : Typed → α) :
    Reported.Alike (MovesFrom line other)
      (do
        match ← typedOf context type line with
        | none => return none
        | some typed => return some (next typed) : Documenting (Option α))
      (do
        match ← typedOf context type other with
        | none => return none
        | some typed => return some (next typed)) := by
  apply (typedOf_alike type).bind
  intro typed
  cases typed with
  | none => exact .of_quiet rfl
  | some typed => exact .of_quiet rfl

variable {start : Nat}

/-- A response does not depend on the line of its tag. -/
theorem responseOf_alike (tag : Tag) (other : Nat) :
    Reported.Alike (MovesFrom (start + tag.line) (start + other)) (responseOf context start tag)
      (responseOf context start { tag with line := other }) := by
  unfold responseOf
  dsimp only
  split
  · exact reportError_bind_alike rfl
  · split
    · exact .of_quiet rfl
    · split
      · exact .of_quiet rfl
      · exact typedOf_bind_alike _ _

/-- A body does not depend on the line of its tag. -/
theorem bodyOf_alike (tag : Tag) (other : Nat) :
    Reported.Alike (MovesFrom (start + tag.line) (start + other)) (bodyOf context start tag)
      (bodyOf context start { tag with line := other }) := by
  have htypes : bodyTypes? { tag with line := other } = bodyTypes? tag := rfl
  have hdescription : Tag.description { tag with line := other } = tag.description := rfl
  unfold bodyOf
  rw [htypes, hdescription]
  dsimp only
  split
  · exact reportError_bind_alike rfl
  · split
    · exact .of_quiet rfl
    · exact typedOf_bind_alike _ _

/-! ### Comments with rearranged tags -/

variable {free : List (List Char)} {parts others : List TagPart}

/-- Two diagnostics that differ in their lines only, which are those of one part in two
arrangements. -/
def MovesAlong (start : Nat) (parts others : List TagPart) (left right : Diagnostic) : Prop :=
  ∃ place counterpart, Counterparts parts others place counterpart ∧
    MovesFrom (start + place.offset) (start + counterpart.offset) left right

/-- What is reported on a tag moves along with it. -/
theorem alike_of_movesAlong {α : Type} {document : Tag → Documenting α} {tag other : Tag}
    (hmoves : Tag.MovesAlong free parts others tag other)
    (hdocument : ∀ (tag : Tag) (line : Nat),
      Reported.Alike (MovesFrom (start + tag.line) (start + line)) (document tag)
        (document { tag with line })) :
    Reported.Alike (MovesAlong (start + free.length) parts others) (document tag)
      (document other) := by
  obtain ⟨place, counterpart, hcounterparts, hline, rfl⟩ := hmoves
  apply (hdocument tag (free.length + counterpart.offset)).mono
  intro left right hmoved
  rw [hline, ← Nat.add_assoc, ← Nat.add_assoc] at hmoved
  exact ⟨place, counterpart, hcounterparts, hmoved⟩

/-- The one body of a route is chosen alike before and after a rearrangement. -/
theorem singleBody_alike {tags counterparts : List Tag} (method path : String)
    (htags : List.Forall₂ (Tag.MovesAlong free parts others) tags counterparts) :
    Reported.Alike (MovesAlong (start + free.length) parts others)
      (singleBody context method path start tags)
      (singleBody context method path start counterparts) := by
  cases htags with
  | nil => exact .of_quiet rfl
  | cons hfirst hrest =>
      cases hrest with
      | nil => exact alike_of_movesAlong hfirst bodyOf_alike
      | cons hsecond _ =>
          exact alike_of_movesAlong hsecond fun _ _ => reportError_bind_alike rfl

/-- A rearranged comment gives the same block, with its diagnostics moved along. -/
theorem blockOf_alike (hparts : Rearranges parts others) (method path : String) :
    Reported.Alike (MovesAlong (start + free.length) parts others)
      (blockOf context method path start (.ofParts free parts))
      (blockOf context method path start (.ofParts free others)) := by
  -- Parameters do not depend on lines at all, responses and bodies in their reports only.
  have hparams : ∀ place kind,
      ((DocComment.ofParts free parts).tagsOf kind).map (paramOf context.config place) =
        ((DocComment.ofParts free others).tagsOf kind).map (paramOf context.config place) := by
    intro place kind
    have hline : ∀ (tag : Tag) (line : Nat),
      paramOf context.config place { tag with line } = paramOf context.config place tag :=
      fun _ _ => rfl
    rw [map_tagsOf_ofParts hline, map_tagsOf_ofParts hline, hparts kind]
  unfold blockOf
  rw [hparams, hparams]
  apply Reported.Alike.bind
  · apply Reported.Alike.forEach
    apply (hparts.forall₂_tagsOf free "response").imp
    intro tag other hmoves
    exact alike_of_movesAlong hmoves responseOf_alike
  · intro responses
    apply (singleBody_alike method path (hparts.forall₂_tagsOf free "body")).bind
    intro body
    exact .of_quiet rfl

/-- A block has the parameters in the path before those in the query, and its responses in
the order of their tags, without those that have no schema. -/
structure InTagOrder (context : Context) (start : Nat) (parts : List TagPart) (block : Block) :
    Prop where
  params : block.params =
    (ofKind "param" parts).map (fun part => paramOf context.config .path (part.toTag 0)) ++
      (ofKind "query" parts).map (fun part => paramOf context.config .query (part.toTag 0))
  responses : ∃ outcomes, block.responses = outcomes.filterMap id ∧
    List.Forall₂ (fun part outcome =>
      (responseOf context start (part.toTag 0)).result = .ok outcome)
      (ofKind "response" parts) outcomes

/-- A block lists what its tags give in the order of the tags. -/
theorem blockOf_inTagOrder {method path : String} {block : Block}
    (hblock : (blockOf context method path start (.ofParts free parts)).result = .ok block) :
    InTagOrder context start parts block := by
  obtain ⟨outcomes, houtcomes, hrest⟩ := Reported.bind_result_eq_ok hblock
  obtain ⟨body, -, hpure⟩ := Reported.bind_result_eq_ok hrest
  obtain rfl := Except.ok.inj hpure
  constructor
  · have hline : ∀ (place : ParamPlace) (tag : Tag) (line : Nat),
        paramOf context.config place { tag with line } = paramOf context.config place tag :=
      fun _ _ _ => rfl
    dsimp only
    rw [map_tagsOf_ofParts (hline .path), map_tagsOf_ofParts (hline .query)]
  · refine ⟨outcomes, rfl, ?_⟩
    have hall := (Reported.forEach_of_ok houtcomes).1
    rw [tagsOf_ofParts, List.forall₂_map_left_iff] at hall
    rw [← map_part_placesOf, List.forall₂_map_left_iff]
    apply hall.imp
    intro place outcome houtcome
    have hline := @responseOf_alike context start
      (place.part.toTag (free.length + place.offset)) 0
    exact hline.result.symm.trans houtcome

/-- Every comment is free lines followed by tags with the lines up to the next one.  If the
tags are rearranged, and those of each kind keep their order, then the comment is read if it
was before, and the route is documented in the same way or fails in the same way.  The same
is reported in the same order, for the lines that the tags have moved to. -/
theorem rearranged_documented_alike :
    (∀ text, ∃ free parts, Written text free parts) ∧
    ∀ (text other : String) (free : List (List Char)) (parts others : List TagPart),
      Written text free parts → Written other free others → Rearranges parts others →
      (DocComment.parse? text = none ∧ DocComment.parse? other = none) ∨
      ∃ comment rearranged, DocComment.parse? text = some comment ∧
        DocComment.parse? other = some rearranged ∧
        ∀ (context : Context) (method path : String) (start : Nat),
          Reported.Alike (MovesAlong (start + free.length) parts others)
            (blockOf context method path start comment)
            (blockOf context method path start rearranged) ∧
          ∀ block, (blockOf context method path start comment).result = .ok block →
            InTagOrder context start parts block := by
  refine ⟨exists_written, ?_⟩
  intro text other free parts others htext hother hparts
  apply (hparts.parse?_eq htext hother).imp_right
  rintro ⟨hcomment, hrearranged⟩
  refine ⟨_, _, hcomment, hrearranged, ?_⟩
  intro context method path start
  exact ⟨blockOf_alike hparts method path, fun block => blockOf_inTagOrder⟩

/-! ### A comment with its tags in two orders -/

/-- A query parameter with a line of description. -/
def languagePart : TagPart where
  head := "# @query lang".toList
  following := ["#   of the greeting".toList]
  isTag := by decide +kernel
  isFree := by decide +kernel

/-- A response without a status code. -/
def malformedPart : TagPart where
  head := "# @response fine".toList
  following := []
  isTag := by decide +kernel
  isFree := List.forall_mem_nil _

def languageText : String :=
  "# Greet\n# @query lang\n#   of the greeting\n# @response fine"

def rearrangedText : String :=
  "# Greet\n# @response fine\n# @query lang\n#   of the greeting"

theorem rearranges_language :
    Rearranges [languagePart, malformedPart] [malformedPart, languagePart] :=
  .swap (by decide +kernel) [] []

theorem written_language :
    Written languageText ["# Greet".toList] [languagePart, malformedPart] ∧
      Written rearrangedText ["# Greet".toList] [malformedPart, languagePart] := by
  have hfree : ∀ line ∈ ["# Greet".toList], IsFree line := by decide +kernel
  exact ⟨⟨by decide +kernel, hfree⟩, ⟨by decide +kernel, hfree⟩⟩

def languageTag (line : Nat) : Tag where
  kind := "query"
  type := none
  name := "lang"
  inline := ""
  continuation := "of the greeting"
  line
  source := "@query lang\n  of the greeting"

def malformedTag (line : Nat) : Tag where
  kind := "response"
  type := none
  name := "fine"
  inline := ""
  continuation := ""
  line
  source := "@response fine"

def languageComment : DocComment := ⟨"Greet", "", [languageTag 1, malformedTag 3]⟩

def rearrangedComment : DocComment := ⟨"Greet", "", [malformedTag 1, languageTag 2]⟩

theorem parse?_language :
    DocComment.parse? languageText = some languageComment ∧
      DocComment.parse? rearrangedText = some rearrangedComment := by
  decide +kernel

theorem diagnostics_language (context : Context) (method path : String) (start : Nat) :
    (blockOf context method path start languageComment).diagnostics =
        [context.diagnostic .error (start + 3)
          "Error: Response code 'fine' should be a number."] ∧
      (blockOf context method path start rearrangedComment).diagnostics =
        [context.diagnostic .error (start + 1)
          "Error: Response code 'fine' should be a number."] :=
  ⟨rfl, rfl⟩

/-- What is reported on the response goes from the last line of the comment to its second. -/
theorem rearranged_documented_alike_language :
    Rearranges [languagePart, malformedPart] [malformedPart, languagePart] ∧
      DocComment.parse? languageText = some languageComment ∧
      DocComment.parse? rearrangedText = some rearrangedComment ∧
      ∀ (context : Context) (method path : String) (start : Nat),
        Reported.Alike
          (MovesAlong (start + 1) [languagePart, malformedPart] [malformedPart, languagePart])
          (blockOf context method path start languageComment)
          (blockOf context method path start rearrangedComment) ∧
        (blockOf context method path start languageComment).diagnostics.map Diagnostic.line =
          [start + 3] ∧
        (blockOf context method path start rearrangedComment).diagnostics.map Diagnostic.line =
          [start + 1] := by
  obtain ⟨hcomment, hrearranged⟩ := parse?_language
  refine ⟨rearranges_language, hcomment, hrearranged, ?_⟩
  intro context method path start
  obtain ⟨hlast, hsecond⟩ := diagnostics_language context method path start
  obtain ⟨hnone, -⟩ | ⟨comment, rearranged, htext, hother, hdocumented⟩ :=
    rearranged_documented_alike.2 _ _ _ _ _ written_language.1 written_language.2
      rearranges_language
  · rw [hcomment] at hnone
    cases hnone
  · cases hcomment.symm.trans htext
    cases hrearranged.symm.trans hother
    refine ⟨(hdocumented context method path start).1, ?_, ?_⟩
    · rw [hlast]
      rfl
    · rw [hsecond]
      rfl

end RouteScribe.Route
